import DContact.Dialer.DialerStanding

/-!
# Moves of the records

A transaction changes at most one record. A record is changed by the commit of such a transaction, or
by one update of the barrier or the reconciler. Identifiers of records are never given twice.
-/

namespace DContact.Dialer

open Lib List Database
open Journey (OwnerCommandPayload OwnerCommandType)

def isRecord : DialerChange → Bool
  | .receipt _ => false
  | _ => true

def recordsOf (changes : List DialerChange) : List DialerChange := changes.filter isRecord

structure SameRecords (left right : DialerTables) : Prop where
  callbacks : left.callbacks = right.callbacks
  targets : left.targets = right.targets

theorem SameRecords.refl (tables : DialerTables) : SameRecords tables tables := ⟨rfl, rfl⟩

variable {left right : DialerTables}

theorem SameRecords.apply (same : SameRecords left right)
    (change : DialerChange) : SameRecords (change.apply left) (change.apply right) := by
  obtain ⟨callbacks, targets⟩ := same
  cases change <;> constructor <;> simp only [DialerChange.apply, callbacks, targets]

theorem sameRecords_receipt (row : ObDialerCommandInbox) (tables : DialerTables) :
    SameRecords (DialerChange.apply (.receipt row) tables) tables := ⟨rfl, rfl⟩

/-- The records after a commit are those that the changes of records leave. -/
theorem sameRecords_publish (changes : List DialerChange) (same : SameRecords left right) :
    SameRecords (publish dialerWrites changes left)
      (publish dialerWrites (recordsOf changes) right) := by
  induction changes generalizing left right with
  | nil => exact same
  | cons change rest ih =>
      cases change with
      | receipt row =>
          exact ih ⟨same.callbacks, same.targets⟩
      | createCallback row => exact ih (same.apply (.createCallback row))
      | moveCallback id state data => exact ih (same.apply (.moveCallback id state data))
      | createTarget row => exact ih (same.apply (.createTarget row))
      | moveTarget id state data => exact ih (same.apply (.moveTarget id state data))

variable {pid : Nat}

theorem records_moved {db after : DialerDatabase} {effect : DialerEffect}
    (moved : Database.Moved dialerWrites db pid effect after) :
    SameRecords after.tables db.tables ∨
      (effect = .commit ∧ ∃ work, db.inside pid = some work ∧
        SameRecords after.tables (publish dialerWrites (recordsOf work.changes) db.tables)) ∨
      (db.inside pid = none ∧ ∃ change, effect = .write change ∧ after.tables = change.apply db.tables) := by
  cases moved with
  | commit =>
      unfold commit
      split
      next => exact .inl (.refl _)
      next work found => exact .inr (.inl ⟨rfl, work, found, sameRecords_publish _ (.refl _)⟩)
  | lock locked =>
      rcases lock_some locked with ⟨-, rfl⟩ | ⟨work, -, -, rfl⟩ <;> exact .inl (.refl _)
  | @write change _ written =>
      rcases (write_some written).2 with ⟨outside, rfl⟩ | ⟨work, -, rfl⟩
      · exact .inr (.inr ⟨outside, change, rfl, rfl⟩)
      · exact .inl (.refl _)
  | _ => exact .inl (.refl _)

variable {history : DialerHistory} {change : DialerChange} {host : DialerHost}
  {request : DialerRequest} {reply : Except DialerError request.Reply}

theorem unchanged_before {call : DialerCall} {work : DialerTransaction}
    (inside : transactionOf history = some work)
    (permitted : (dialerProtocol host).permits call history request)
    (writes : effectOf request reply = .write change) (record : isRecord change = true) :
    work.changes = [] := by
  obtain ⟨command, -, permitted⟩ := permits_inside inside permitted
  have unchanged : Inside history fun work => work.changes = [] := by
    cases change with
    | receipt row => cases record
    | createCallback row =>
        cases produces_effect writes
        exact permitted.2.1.mono fun _ holds => holds.2
    | moveCallback id state data =>
        obtain ⟨expected, row, same⟩ := produces_effect writes
        cases same
        exact permitted.2
    | createTarget row =>
        cases produces_effect writes
        exact permitted.1.mono fun _ holds => holds.2
    | moveTarget id state data =>
        obtain ⟨expected, row, same⟩ := produces_effect writes
        cases same
        exact permitted.2
  obtain ⟨work', found, empty⟩ := unchanged
  cases inside.symm.trans found
  exact empty

/-- A change that the transaction of a worker has made. -/
def Changing (history : DialerHistory) (change : DialerChange) : Prop :=
  Inside history fun work => change ∈ work.changes

/-- After a request, a change is pending that was pending before, or that was just made. -/
theorem changing_performing {world : DialerWorld} {other : Nat} {store : DialerStore}
    (changing : Changing ((world.performing pid request reply store).history other) change) :
    Changing (world.history other) change ∨
      other = pid ∧ effectOf request reply = .write change := by
  obtain ⟨next, found, mem⟩ := changing
  rw [World.history_performing] at found
  split at found
  next own =>
    subst own
    rw [transactionOf_append] at found
    rcases Database.Effect.within_some found with ⟨-, rfl⟩ | ⟨work, inside, ⟨-, same⟩ |
      ⟨key, -, rfl⟩ | ⟨written, writes, rfl⟩⟩
    · cases mem
    · exact .inl ⟨work, inside, same ▸ mem⟩
    · exact .inl ⟨work, inside, mem⟩
    · rcases mem_snoc.mp mem with old | rfl
      · exact .inl ⟨work, inside, old⟩
      · exact .inr ⟨rfl, writes⟩
  next => exact .inl ⟨next, found, mem⟩

def SingleRecord (history : DialerHistory) : Prop :=
  ∀ work, transactionOf history = some work → (recordsOf work.changes).length ≤ 1

theorem SingleRecord.append {call : DialerCall} (single : SingleRecord history)
    (permitted : (dialerProtocol host).permits call history request) :
    SingleRecord (history ++ [⟨request, reply⟩]) := by
  intro next found
  rw [transactionOf_append] at found
  rcases Database.Effect.within_some found with ⟨-, rfl⟩ | ⟨work, inside, ⟨-, same⟩ |
    ⟨key, -, rfl⟩ | ⟨written, writes, rfl⟩⟩
  · exact Nat.zero_le _
  · exact same ▸ single work inside
  · exact single work inside
  · cases record : isRecord written with
    | false =>
        simpa [recordsOf, filter_append, record] using single work inside
    | true =>
        rw [unchanged_before inside permitted writes record]
        simp [recordsOf, record]

theorem SingleRecord.same (single : SingleRecord history)
    {left right : DialerChange} (leftChanging : Changing history left)
    (rightChanging : Changing history right) (leftRecord : isRecord left = true)
    (rightRecord : isRecord right = true) : left = right := by
  obtain ⟨work, found, leftMember⟩ := leftChanging
  obtain ⟨work', found', rightMember⟩ := rightChanging
  cases found.symm.trans found'
  have few := single work found
  have leftKept : left ∈ recordsOf work.changes := mem_filter.mpr ⟨leftMember, leftRecord⟩
  have rightKept : right ∈ recordsOf work.changes := mem_filter.mpr ⟨rightMember, rightRecord⟩
  generalize recordsOf work.changes = records at few leftKept rightKept
  cases records with
  | nil => cases leftKept
  | cons change rest =>
      rw [length_eq_zero_iff.mp (Nat.le_zero.mp (Nat.le_of_succ_le_succ few)),
        mem_singleton] at leftKept rightKept
      exact leftKept.trans rightKept.symm

def createdBy : DialerChange → Option (TargetKind × String)
  | .createCallback row => some (.callback, row.id)
  | .createTarget row => some (.campaignTarget, row.id)
  | _ => none

def idsOf (kind : TargetKind) (tables : DialerTables) : List String :=
  match kind with
  | .callback => tables.callbacks.map ObCallback.id
  | .campaignTarget => tables.targets.map ObCampaignTarget.id

theorem SameRecords.ids (same : SameRecords left right)
    (kind : TargetKind) : idsOf kind left = idsOf kind right := by
  cases kind with
  | campaignTarget => exact congrArg (List.map ObCampaignTarget.id) same.targets
  | callback => exact congrArg (List.map ObCallback.id) same.callbacks

theorem idsOf_apply (kind : TargetKind) (change : DialerChange) (tables : DialerTables) :
    idsOf kind (change.apply tables) = idsOf kind tables ++
      ((createdBy change).toList.filter fun created => created.1 = kind).map Prod.snd := by
  cases kind <;> cases change <;>
    simp [idsOf, DialerChange.apply, createdBy, Table.map_key_update]

/-- Every identifier stands for one record, also of those that are being created. -/
structure RecordsApart (tables : DialerTables) (history : Nat → DialerHistory) : Prop where
  single : ∀ pid, SingleRecord (history pid)
  ids : ∀ kind, (idsOf kind tables).Nodup
  fresh : ∀ pid change kind id, Changing (history pid) change → createdBy change = some (kind, id) →
    id ∉ idsOf kind tables
  apart : ∀ left right leftChange rightChange kind id, left ≠ right →
    Changing (history left) leftChange → Changing (history right) rightChange →
    createdBy leftChange = some (kind, id) → createdBy rightChange ≠ some (kind, id)

theorem callbackPurpose_withdraw {expected : Expected ObCallbackState} {state : ObCallbackState}
    (withdraws : callbackPurpose expected state = some .withdraw) :
    state ∈ withdrawnCallbackStates := by
  unfold callbackPurpose at withdraws
  split at withdraws <;> first | (cases withdraws; done) | simp [withdrawnCallbackStates]

theorem Standing.withdraws {world : DialerWorld}
    (standing : Standing host world) {id : String} {state : ObCallbackState}
    {data : RecordData} (changing : Changing (world.history pid) (.moveCallback id state data)) :
    state ∈ withdrawnCallbackStates := by
  obtain ⟨⟨request, reply⟩, writes, command, earlier, -, -, permitted⟩ := standing.pending changing
  obtain ⟨expected, row, same⟩ := produces_effect writes
  cases same
  obtain ⟨purpose, found, same⟩ := Option.map_eq_some_iff.mp permitted.1
  cases same
  exact callbackPurpose_withdraw found

section Step

variable {world : DialerWorld} {call : DialerCall} {tick : DialerTick}
  {reply : Except DialerError request.Reply} {store : DialerStore}

theorem records_step (standing : Standing host world) (single : SingleRecord (world.history pid))
    (performed : performDialer host pid tick request world.store = some (reply, store)) :
    SameRecords store.db.tables world.store.db.tables ∨
      ∃ change, isRecord change = true ∧
        SameRecords store.db.tables (change.apply world.store.db.tables) ∧
        (((⟨request, reply⟩ : DialerExchange) = ⟨.commit, .ok ()⟩ ∧
            Changing (world.history pid) change) ∨
          (transactionOf (world.history pid) = none ∧ effectOf request reply = .write change)) := by
  rcases records_moved (performDialer_moved performed) with same | ⟨commits, work, found, same⟩ |
    ⟨outside, change, writes, same⟩
  · exact .inl same
  · rw [standing.inside] at found
    cases records : recordsOf work.changes with
    | nil =>
        rw [records] at same
        exact .inl same
    | cons change rest =>
        have few := single work found
        rw [records] at few same
        cases length_eq_zero_iff.mp (Nat.le_zero.mp (Nat.le_of_succ_le_succ few))
        have mem : change ∈ recordsOf work.changes := records ▸ mem_cons_self
        obtain ⟨changed, record⟩ := mem_filter.mp mem
        exact .inr ⟨change, record, same, .inl ⟨produces_effect commits, work, found, changed⟩⟩
  · rw [standing.inside] at outside
    cases record : isRecord change with
    | false =>
        cases change with
        | receipt row => exact .inl (same ▸ sameRecords_receipt row _)
        | _ => cases record
    | true => exact .inr ⟨change, record, same ▸ .refl _, .inr ⟨outside, writes⟩⟩

theorem created_inside (permitted : (dialerProtocol host).permits call (world.history pid) request)
    (writes : effectOf request reply = .write change) {created : TargetKind × String}
    (creates : createdBy change = some created) :
    ∃ work, transactionOf (world.history pid) = some work := by
  cases change with
  | createCallback row =>
      cases produces_effect writes
      obtain ⟨command, -, -, ⟨work, found, -⟩, -⟩ := permits_ofCommand rfl permitted
      exact ⟨work, found⟩
  | createTarget row =>
      cases produces_effect writes
      obtain ⟨command, -, ⟨work, found, -⟩, -⟩ := permits_ofCommand rfl permitted
      exact ⟨work, found⟩
  | _ => cases creates

/-- A record that is being created is new to the table and to the other transactions. -/
theorem created_fresh (standing : Standing host world)
    (performed : performDialer host pid tick request world.store = some (reply, store))
    (writes : effectOf request reply = .write change) {kind : TargetKind}
    {id : String} (creates : createdBy change = some (kind, id)) :
    id ∉ idsOf kind world.store.db.tables ∧
      ∀ other earlier, other ≠ pid → Changing (world.history other) earlier →
        createdBy earlier ≠ some (kind, id) := by
  have pending : ∀ other earlier, Changing (world.history other) earlier →
      world.store.db.Pending other earlier := by
    rintro other earlier ⟨work, found, mem⟩
    exact ⟨work, (standing.inside other).trans found, mem⟩
  have apart : ∀ {change}, Database.Moved dialerWrites world.store.db pid (.write change) store.db →
      ∀ other earlier, other ≠ pid → Changing (world.history other) earlier →
        DialerChange.clash change earlier = false := by
    intro change moved other earlier differs changing
    cases moved with
    | write written =>
        exact (write_some written).1 other earlier differs (pending other earlier changing)
  cases change with
  | createCallback row =>
      cases creates
      cases produces_effect writes
      rcases (world.store.inserting_moved (answer_of_ok performed)).2 with ⟨same, -⟩ | ⟨-, free, moved⟩
      · cases same
      · refine ⟨?_, fun other earlier differs changing creates => ?_⟩
        · simpa [idsOf] using free
        · have away := apart moved other earlier differs changing
          cases earlier with
          | createCallback earlier =>
              have same : earlier.id = row.id := by simpa [createdBy] using creates
              simp [DialerChange.clash, same] at away
          | _ => cases creates
  | createTarget row =>
      cases creates
      cases produces_effect writes
      rcases (world.store.inserting_moved (answer_of_ok performed)).2 with ⟨same, -⟩ | ⟨-, free, moved⟩
      · cases same
      · refine ⟨?_, fun other earlier differs changing creates => ?_⟩
        · intro taken
          obtain ⟨other, mem, named⟩ := mem_map.mp taken
          have away := any_eq_false.mp free other mem
          simp [named] at away
        · have away := apart moved other earlier differs changing
          cases earlier with
          | createTarget earlier =>
              have same : earlier.id = row.id := by simpa [createdBy] using creates
              simp [DialerChange.clash, same] at away
          | _ => cases creates
  | _ => cases creates

/-- What the identifiers are after a request: those before, and perhaps one whose creation has been
committed. -/
theorem ids_step (standing : Standing host world) (single : SingleRecord (world.history pid))
    (permitted : (dialerProtocol host).permits call (world.history pid) request)
    (performed : performDialer host pid tick request world.store = some (reply, store)) :
    (∀ kind, idsOf kind store.db.tables = idsOf kind world.store.db.tables) ∨
      ∃ change kind id, createdBy change = some (kind, id) ∧ Changing (world.history pid) change ∧
        (⟨request, reply⟩ : DialerExchange) = ⟨.commit, .ok ()⟩ ∧
        ∀ other, idsOf other store.db.tables = idsOf other world.store.db.tables ++
          if kind = other then [id] else [] := by
  rcases records_step standing single performed with same | ⟨change, -, same, changing⟩
  · exact .inl same.ids
  · have after : ∀ kind, idsOf kind store.db.tables = idsOf kind world.store.db.tables ++
        ((createdBy change).toList.filter fun created => created.1 = kind).map Prod.snd :=
      fun kind => (same.ids kind).trans (idsOf_apply kind change _)
    cases creates : createdBy change with
    | none => exact .inl fun kind => by simpa [creates] using after kind
    | some created =>
        rcases changing with ⟨commits, changing⟩ | ⟨outside, writes⟩
        · refine .inr ⟨change, created.1, created.2, creates, changing, commits, fun kind => ?_⟩
          rw [after kind, creates]
          by_cases same : created.1 = kind <;> simp [same]
        · obtain ⟨work, inside⟩ := created_inside permitted writes creates
          cases outside.symm.trans inside

theorem recordsApart_performs (standing : Standing host world)
    (inv : RecordsApart world.store.db.tables world.history)
    (permitted : (dialerProtocol host).permits call (world.history pid) request)
    (performed : performDialer host pid tick request world.store = some (reply, store)) :
    RecordsApart store.db.tables (world.performing pid request reply store).history := by
  have steps := ids_step standing (inv.single pid) permitted performed
  constructor
  · intro other
    rw [World.history_performing]
    split
    next => exact (inv.single pid).append permitted
    next => exact inv.single other
  · intro kind
    rcases steps with same | ⟨change, created, id, creates, changing, -, after⟩
    · exact same kind ▸ inv.ids kind
    · rw [after kind]
      split
      next own =>
        refine List.Nodup.append (inv.ids kind) (nodup_singleton id) ?_
        rw [disjoint_singleton]
        exact own ▸ inv.fresh pid change created id changing creates
      next => simpa using inv.ids kind
  · intro other change kind id changing creates
    rcases steps with same | ⟨committed, created, taken, commits, pending, ends, after⟩
    · rw [same kind]
      rcases changing_performing changing with old | ⟨-, writes⟩
      · exact inv.fresh other change kind id old creates
      · exact (created_fresh standing performed writes creates).1
    · by_cases own : other = pid
      · rw [World.history_performing, if_pos own, ends] at changing
        obtain ⟨work, found, -⟩ := changing
        rw [transactionOf_append] at found
        cases found
      · rcases changing_performing changing with old | ⟨same, -⟩
        · rw [after kind, mem_append, not_or]
          refine ⟨inv.fresh other change kind id old creates, ?_⟩
          split
          next same =>
            subst same
            intro mem
            cases mem_singleton.mp mem
            exact inv.apart other pid change committed created id own old pending creates commits
          next => exact not_mem_nil
        · exact absurd same own
  · intro left right leftChange rightChange kind id differs leftChanging rightChanging leftCreates
    rcases changing_performing leftChanging with leftOld | ⟨rfl, leftWrites⟩
    · rcases changing_performing rightChanging with rightOld | ⟨rfl, rightWrites⟩
      · exact inv.apart left right leftChange rightChange kind id differs leftOld rightOld leftCreates
      · intro rightCreates
        exact (created_fresh standing performed rightWrites rightCreates).2 left leftChange differs
          leftOld leftCreates
    · rcases changing_performing rightChanging with rightOld | ⟨rfl, -⟩
      · exact (created_fresh standing performed leftWrites leftCreates).2 right rightChange
          (Ne.symm differs) rightOld
      · exact absurd rfl differs

end Step

variable {before after : DialerStore}

section Runs

variable {condition : DialerCondition} {store : DialerStore} {label : DialerElsewhere}

theorem policies_performed {tick : DialerTick}
    (performed : performDialer host pid tick request before = some (reply, after)) :
    after.db.tables.policies = before.db.tables.policies := by
  have applied : ∀ (change : DialerChange) (tables : DialerTables),
      (change.apply tables).policies = tables.policies := by
    intro change tables
    cases change <;> rfl
  have moved := performDialer_moved performed
  generalize effectOf request reply = effect at moved
  generalize after.db = last at moved
  cases moved with
  | nothing => rfl
  | begin_ => rfl
  | rollback => rfl
  | commit =>
      refine commit_induction (P := fun db : DialerDatabase => db.tables.policies =
        before.db.tables.policies) rfl ?_ fun _ same => same
      exact fun db change rest locks same _ => (applied change db.tables).trans same
  | lock locked =>
      rcases lock_some locked with ⟨-, rfl⟩ | ⟨work, -, -, rfl⟩ <;> rfl
  | @write change _ written =>
      rcases (write_some written).2 with ⟨-, rfl⟩ | ⟨work, -, rfl⟩
      · exact applied change _
      · rfl

/-- The transactions and the records of a run, which its other invariants stand beside. -/
def RecordsKept (host : DialerHost) (world : DialerWorld) : Prop :=
  Standing host world ∧ RecordsApart world.store.db.tables world.history

theorem recordsKept_preserves :
    Preserves (dialerMachine host) condition (dialerProtocol host) (RecordsKept host) := by
  refine standing_preserves.and (preservesBeside_made (fun (store : DialerStore) history _ =>
    RecordsApart store.db.tables history) (fun _ _ _ _ _ inv _ _ => inv) ?_ ?_)
  · intro world pid call tick request reply store standing inv called permitted met performed
    exact recordsApart_performs standing inv permitted performed
  · intro world label store standing inv met moved
    have alone := elsewhere_alone moved
    have same : SameRecords _ _ := ⟨alone.callbacks, alone.targets⟩
    exact ⟨inv.single, fun kind => same.ids kind ▸ inv.ids kind,
      fun pid change kind id changing creates =>
        same.ids kind ▸ inv.fresh pid change kind id changing creates, inv.apart⟩

theorem recordsKept_initially (fresh : store.Fresh) :
    RecordsKept host (Workers.idle store : DialerWorkers).world := by
  have none : ∀ pid change, ¬ Changing
      ((Workers.idle store : DialerWorkers).world.history pid) change := by
    rintro pid change ⟨work, found, -⟩
    cases found
  refine ⟨standing_initially fresh, fun pid work found => ?_, fun kind => ?_,
    fun pid change kind id changing => absurd changing (none pid change),
    fun left right leftChange rightChange kind id differs leftChanging =>
      absurd leftChanging (none left leftChange)⟩
  · cases found
  · change (idsOf kind store.db.tables).Nodup
    cases kind with
    | callback => simp [idsOf, fresh.2.2.1]
    | campaignTarget => simp [idsOf, fresh.2.2.2.1]

end Runs

end DContact.Dialer

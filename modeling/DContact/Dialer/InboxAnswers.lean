import DContact.Dialer.DialerStanding

/-!
# Every accepted command has its own answer

A command that was answered with its receipt is answered by the query with its own decision, as long
as commands with one action and request are one command, commands with one identifier and request are
of one action and type, and no positive command is made of an action under which a positive command
of another type has taken effect. The inbox checks none of these.
-/

namespace DContact.Dialer

open Lib List
open Governance (Instant)
open Journey (OwnerCommandPayload OwnerCommandType)

/-- The command of the receipt has created a record. -/
def effective (row : ObDialerCommandInbox) : Bool :=
  decide (row.commandType ∈ positiveCommandTypes) &&
    (row.decision.status == .admitted || row.decision.status == .scheduled)

/-- Receipts that one answer would be looked up among, or that both take effect on one action. -/
def collide (left right : ObDialerCommandInbox) : Bool :=
  left.actionKey == right.actionKey &&
    (left.requestHash == right.requestHash || (effective left && effective right))

/-- How a command must stand apart from the receipts that are committed when it looks for its own. -/
def Separate (command : OwnerCommandPayload) (inbox : List ObDialerCommandInbox) : Prop :=
  ∀ row ∈ inbox,
    (row.actionKey = command.actionKey → row.requestHash = command.requestHash →
      row.commandId = command.commandId) ∧
    (row.commandId = command.commandId → row.requestHash = command.requestHash →
      row.actionKey = command.actionKey ∧ row.commandType = command.intent.commandType) ∧
    (row.actionKey = command.actionKey → effective row = true →
      command.intent.commandType ∈ positiveCommandTypes →
      row.commandType = command.intent.commandType)

instance (command : OwnerCommandPayload) (inbox : List ObDialerCommandInbox) :
    Decidable (Separate command inbox) := by
  unfold Separate
  infer_instance

/-- Every command stands apart from the receipts when it looks for its own. -/
def separateCommands : DialerCondition where
  asks world pid _ request :=
    match request, world.calls pid with
    | .findReceipt _, .running (.persist command) =>
        decide (Separate command world.store.db.tables.inbox)
    | _, _ => true
  elsewhere _ _ := true

def Locked (history : DialerHistory) (actionKey : String) : Prop :=
  Inside history fun work => .command actionKey ∈ work.locks

/-- What the inbox holds, and what the workers know of it. -/
structure InboxApart (inbox : List ObDialerCommandInbox) (history : Nat → DialerHistory)
    (made : Nat → Option DialerCall) : Prop where
  apart : inbox.Pairwise fun left right => collide left right = false
  pending : ∀ pid work row, transactionOf (history pid) = some work → .receipt row ∈ work.changes →
    .command row.actionKey ∈ work.locks ∧ receiptsOf work.changes = [row] ∧
      ∀ other ∈ inbox, collide other row = false
  unseen : ∀ pid command, made pid = some (.persist command) →
    Told (history pid) (.findReceipt command.commandId) none →
    Locked (history pid) command.actionKey →
    ∀ row ∈ inbox, row.actionKey = command.actionKey →
      row.requestHash ≠ command.requestHash ∧
        (effective row = true → command.intent.commandType ∈ positiveCommandTypes →
          row.commandType = command.intent.commandType)
  undone : ∀ pid actionKey commandType,
    Told (history pid) (.findPositiveReceipt actionKey commandType) none →
    Locked (history pid) actionKey →
    ∀ row ∈ inbox, ofAction actionKey commandType row = false
  seen : ∀ pid command row, made pid = some (.persist command) →
    Told (history pid) (.findReceipt command.commandId) (some row) →
    row ∈ inbox ∧ row.commandId = command.commandId ∧
      (row.requestHash = command.requestHash →
        row.actionKey = command.actionKey ∧ row.commandType = command.intent.commandType)
  renamed : ∀ pid command row, made pid = some (.persist command) →
    Told (history pid) (.findReceipt command.commandId) none →
    Told (history pid)
      (.findPositiveReceipt command.actionKey command.intent.commandType) (some row) →
    row.requestHash ≠ command.requestHash
  recorded : ∀ pid row, Recorded row (history pid) → row ∈ inbox

variable {row : ObDialerCommandInbox} {command : OwnerCommandPayload} {pid : Nat}

section Step

variable {host : DialerHost} {world : DialerWorld} {pid : Nat} {call : DialerCall}
  {tick : DialerTick} {request : DialerRequest} {reply : Except DialerError request.Reply}
  {store : DialerStore}

section
variable (standing : Standing host world)
  (inv : InboxApart world.store.db.tables.inbox world.history fun other => (world.calls other).made?)
  (permitted : (dialerProtocol host).permits call (world.history pid) request)
  (performed : performDialer host pid tick request world.store = some (reply, store))
include standing inv permitted performed

theorem inbox_step :
    store.db.tables.inbox = world.store.db.tables.inbox ∨
      ∃ work row, transactionOf (world.history pid) = some work ∧ .receipt row ∈ work.changes ∧
        (⟨request, reply⟩ : DialerExchange) = ⟨.commit, .ok ()⟩ ∧
        store.db.tables.inbox = world.store.db.tables.inbox ++ [row] := by
  rcases inbox_moved (performDialer_moved performed) with same | ⟨commits, work, found, grown⟩ |
    ⟨outside, row, writes⟩
  · exact .inl same
  · rw [standing.inside] at found
    cases receipts : receiptsOf work.changes with
    | nil =>
        rw [receipts, append_nil] at grown
        exact .inl grown
    | cons row rest =>
        have mem : .receipt row ∈ work.changes :=
          mem_receiptsOf.mp (receipts ▸ mem_cons_self)
        obtain ⟨-, single, -⟩ := inv.pending pid work row found mem
        exact .inr ⟨work, row, found, mem, produces_effect commits, single ▸ grown⟩
  · cases produces_effect writes
    obtain ⟨command, -, id, decision, observedAt, -, -, work, found, -⟩ :=
      permits_ofCommand rfl permitted
    rw [standing.inside, found] at outside
    cases outside

theorem unpublished {other : Nat}
    (locked : Locked ((world.performing pid request reply store).history other) row.actionKey)
    (mem : row ∈ store.db.tables.inbox) : row ∈ world.store.db.tables.inbox := by
  rcases inbox_step standing inv permitted performed with same |
    ⟨work, published, found, changed, commits, grown⟩
  · exact same ▸ mem
  · rw [grown] at mem
    rcases mem_snoc.mp mem with old | rfl
    · exact old
    · obtain ⟨held, -, -⟩ := inv.pending pid work row found changed
      rw [World.history_performing, commits] at locked
      split at locked
      next =>
        obtain ⟨after, inside, -⟩ := locked
        rw [transactionOf_append] at inside
        cases inside
      next differs => exact absurd (standing.same locked ⟨work, found, held⟩) differs

theorem inbox_grows :
    ∀ row ∈ world.store.db.tables.inbox, row ∈ store.db.tables.inbox := by
  intro row mem
  rcases inbox_step standing inv permitted performed with same | ⟨_, _, -, -, -, grown⟩
  · exact same ▸ mem
  · exact grown ▸ mem_append_left _ mem

end

/-- The lock of an action is not taken once something has been looked up. -/
theorem locked_before (permitted : (dialerProtocol host).permits call (world.history pid) request)
    {other : Nat} {asked : DialerRequest} {value : asked.Reply}
    (told : Told (world.history other) asked value) (looked : looks asked = true)
    {actionKey : String}
    (locked : Locked ((world.performing pid request reply store).history other) actionKey) :
    Locked (world.history other) actionKey := by
  obtain ⟨next, inside, mem⟩ := locked
  rw [World.history_performing] at inside
  split at inside
  next own =>
    subst own
    rw [transactionOf_append] at inside
    rcases Database.Effect.within_some inside with ⟨-, rfl⟩ | ⟨work, found, ⟨-, same⟩ |
      ⟨key, locks, rfl⟩ | ⟨change, -, rfl⟩⟩
    · cases mem
    · exact ⟨work, found, same ▸ mem⟩
    · rcases mem_cons.mp mem with same | old
      · cases produces_effect locks
        obtain ⟨command, -, -, first⟩ := permits_ofCommand rfl permitted
        have begun := first actionKey same.symm
        rw [begun] at told
        cases mem_singleton.mp told
        cases looked
      · exact ⟨work, found, old⟩
    · exact ⟨work, found, mem⟩
  next => exact ⟨next, inside, mem⟩

/-- A receipt that is written collides with none that is committed. -/
theorem written_apart (inv : InboxApart world.store.db.tables.inbox world.history fun other =>
      (world.calls other).made?)
    (made : Made world pid (.persist command))
    (permitted : persistPermits command (world.history pid) (.insertReceipt row)) :
    ∃ work, transactionOf (world.history pid) = some work ∧
      .command row.actionKey ∈ work.locks ∧ receiptsOf work.changes = [] ∧
      ∀ other ∈ world.store.db.tables.inbox, collide other row = false := by
  obtain ⟨id, decision, observedAt, rfl, unmatched, work, found, ⟨held, undecided⟩, -⟩ := permitted
  refine ⟨work, found, held, ?_, fun other mem => ?_⟩
  · rw [eq_nil_iff_forall_not_mem]
    exact fun row receipt => undecided row (mem_receiptsOf.mp receipt)
  · by_contra clash
    obtain ⟨sameAction, sameRequest⟩ : other.actionKey = command.actionKey ∧
        (other.requestHash = command.requestHash ∨ (effective other = true ∧
          effective (receiptOf id command decision observedAt) = true)) := by
      simpa only [collide, receiptOf, Bool.and_eq_true, Bool.or_eq_true, beq_iff_eq,
        Bool.not_eq_false] using clash
    obtain ⟨differs, typed⟩ := inv.unseen pid command made unmatched.1 ⟨work, found, held⟩ other
      mem sameAction
    rcases sameRequest with same | ⟨took, takes⟩
    · exact differs same
    · have ofPositive : command.intent.commandType ∈ positiveCommandTypes := by
        simp only [effective, Bool.and_eq_true, decide_eq_true_eq] at takes
        exact takes.1
      have absent := inv.undone pid _ _ (unmatched.2 ofPositive) ⟨work, found, held⟩ other mem
      simp [ofAction, sameAction, typed took ofPositive] at absent

theorem receiptsOf_append (changes : List DialerChange) (change : DialerChange) :
    receiptsOf (changes ++ [change]) = receiptsOf changes ++ receiptsOf [change] := by
  simp [receiptsOf]

theorem pending_step
    (inv : InboxApart world.store.db.tables.inbox world.history fun other => (world.calls other).made?)
    (called : world.calls pid = .running call)
    (permitted : (dialerProtocol host).permits call (world.history pid) request)
    {next : DialerTransaction}
    (inside : transactionOf (world.history pid ++ [⟨request, reply⟩]) = some next)
    (mem : .receipt row ∈ next.changes) :
    .command row.actionKey ∈ next.locks ∧ receiptsOf next.changes = [row] ∧
      ∀ other ∈ world.store.db.tables.inbox, collide other row = false := by
  rw [transactionOf_append] at inside
  rcases Database.Effect.within_some inside with ⟨-, rfl⟩ | ⟨work, found, ⟨-, same⟩ |
    ⟨key, locks, rfl⟩ | ⟨change, writes, rfl⟩⟩
  · cases mem
  · exact same ▸ inv.pending pid work row found (same ▸ mem)
  · obtain ⟨held, single, apart⟩ := inv.pending pid work row found mem
    exact ⟨mem_cons_of_mem _ held, single, apart⟩
  · by_cases receipt : ∃ written, change = .receipt written
    · obtain ⟨written, rfl⟩ := receipt
      cases produces_effect writes
      obtain ⟨command, rfl, permitted⟩ := permits_ofCommand rfl permitted
      obtain ⟨work', found', held, silent, apart⟩ := written_apart inv
        (show Made world pid (.persist command) by rw [Made, called]; rfl) permitted
      cases found.symm.trans found'
      rcases mem_append.mp mem with old | new
      · rw [← mem_receiptsOf, silent] at old
        cases old
      · cases mem_singleton.mp new
        exact ⟨held, by rw [receiptsOf_append, silent]; rfl, apart⟩
    · have same : receiptsOf (work.changes ++ [change]) = receiptsOf work.changes := by
        rw [receiptsOf_append]
        cases change with
        | receipt written => exact absurd ⟨written, rfl⟩ receipt
        | _ => exact append_nil _
      have before : .receipt row ∈ work.changes :=
        mem_receiptsOf.mp (same ▸ mem_receiptsOf.mpr mem)
      rw [same]
      exact inv.pending pid work row found before

end Step

section Runs

variable {host : DialerHost} {store : DialerStore}

theorem looked_up {world : DialerWorld} {tick : DialerTick} {found : Option ObDialerCommandInbox}
    (called : world.calls pid = .running (.persist command))
    (met : separateCommands.asks world pid tick (.findReceipt command.commandId) = true)
    (performed : performDialer host pid tick (.findReceipt command.commandId) world.store =
      some (.ok found, store)) :
    Separate command world.store.db.tables.inbox ∧ found =
      Table.lookup ObDialerCommandInbox.commandId command.commandId
        world.store.db.tables.inbox := by
  refine ⟨?_, (look_answered performed rfl).2⟩
  simpa [separateCommands, called] using met

theorem inboxApart_performs {world : DialerWorld} {call : DialerCall} {tick : DialerTick}
    {request : DialerRequest} {reply : Except DialerError request.Reply}
    (standing : Standing host world)
    (inv : InboxApart world.store.db.tables.inbox world.history fun other => (world.calls other).made?)
    (called : world.calls pid = .running call)
    (permitted : (dialerProtocol host).permits call (world.history pid) request)
    (met : separateCommands.asks world pid tick request = true)
    (performed : performDialer host pid tick request world.store = some (reply, store)) :
    InboxApart store.db.tables.inbox (world.performing pid request reply store).history
      fun other => (world.calls other).made? where
  apart := by
    rcases inbox_step standing inv permitted performed with same |
      ⟨work, row, found, mem, -, grown⟩
    · exact same ▸ inv.apart
    · obtain ⟨-, -, apart⟩ := inv.pending pid work row found mem
      rw [grown, pairwise_append]
      exact ⟨inv.apart, pairwise_singleton .., fun other old last new =>
        mem_singleton.mp new ▸ apart other old⟩
  pending := by
    intro other work row inside mem
    have before : .command row.actionKey ∈ work.locks ∧ receiptsOf work.changes = [row] ∧
        ∀ other ∈ world.store.db.tables.inbox, collide other row = false := by
      rw [World.history_performing] at inside
      split at inside
      next => exact pending_step inv called permitted inside mem
      next => exact inv.pending other work row inside mem
    refine ⟨before.1, before.2.1, fun earlier committed => ?_⟩
    by_cases same : earlier.actionKey = row.actionKey
    · refine before.2.2 earlier (unpublished standing inv permitted performed
        ⟨work, inside, ?_⟩ committed)
      exact same ▸ before.1
    · simp [collide, same]
  unseen := by
    intro other command made told locked row mem action
    have old : row ∈ world.store.db.tables.inbox :=
      unpublished standing inv permitted performed (action ▸ locked) mem
    rcases told_performing told with told | ⟨rfl, same⟩
    · exact inv.unseen other command made told (locked_before permitted told rfl locked) row old action
    · cases same
      have same := show some call = some (.persist command) by rw [← made, called]; rfl
      cases same
      obtain ⟨separate, absent⟩ := looked_up called met performed
      obtain ⟨renamed, -, typed⟩ := separate row old
      refine ⟨fun hashed => ?_, typed action⟩
      have missing : ∀ row ∈ world.store.db.tables.inbox, row.commandId ≠ command.commandId := by
        simpa [Table.lookup, find?_eq_none] using absent.symm
      exact absurd (renamed action hashed) (missing row old)
  undone := by
    intro other actionKey commandType told locked row mem
    by_cases action : row.actionKey = actionKey
    · have old : row ∈ world.store.db.tables.inbox :=
        unpublished standing inv permitted performed (action ▸ locked) mem
      rcases told_performing told with told | ⟨-, same⟩
      · exact inv.undone other actionKey commandType told
          (locked_before permitted told rfl locked) row old
      · cases same
        have absent := anyOf_none (look_answered performed rfl).2.symm
        rw [filter_eq_nil_iff] at absent
        exact Bool.eq_false_iff.mpr (absent row old)
    · simp [ofAction, action]
  seen := by
    intro other command row made told
    have grows := inbox_grows standing inv permitted performed
    rcases told_performing told with told | ⟨rfl, same⟩
    · obtain ⟨mem, rest⟩ := inv.seen other command row made told
      exact ⟨grows row mem, rest⟩
    · cases same
      have same := show some call = some (.persist command) by rw [← made, called]; rfl
      cases same
      obtain ⟨separate, found⟩ := looked_up called met performed
      have mem := Table.lookup_mem found.symm
      have named := Table.lookup_key found.symm
      exact ⟨grows row mem, named, (separate row mem).2.1 named⟩
  renamed := by
    intro other command row made absent told
    rcases told_performing told with known | ⟨rfl, same⟩
    · rcases told_performing absent with absent | ⟨rfl, same⟩
      · exact inv.renamed other command row made absent known
      · cases same
        have same := show some call = some (.persist command) by rw [← made, called]; rfl
        cases same
        rw [permitted.2] at known
        simp [Told] at known
    · cases same
      have same := show some call = some (.persist command) by rw [← made, called]; rfl
      cases same
      rcases told_performing absent with absent | ⟨-, same⟩
      · have found := mem_filter.mp (anyOf_mem (look_answered performed rfl).2.symm)
        obtain ⟨work, inside, undecided⟩ := permitted
        have action : row.actionKey = command.actionKey := by
          simpa [ofAction] using (Bool.and_eq_true_iff.mp found.2).1
        exact (inv.unseen other command made absent ⟨work, inside, undecided.1⟩ row found.1
          action).1
      · cases same
  recorded := by
    intro other row recorded
    rw [World.history_performing] at recorded
    split at recorded
    next own =>
      subst own
      obtain ⟨earlier, shape, work, found, mem⟩ := recorded
      obtain ⟨before, same⟩ := append_inj' shape rfl
      cases same
      rw [← before] at found
      have moved := performDialer_moved performed
      rw [inbox_commit moved ((standing.inside other).trans found)]
      exact mem_append_right _ (mem_receiptsOf.mpr mem)
    next =>
      exact inbox_grows standing inv permitted performed row (inv.recorded other row recorded)

theorem inboxApart_preserves :
    PreservesBeside (dialerMachine host) separateCommands (dialerProtocol host) (Standing host)
      fun world => InboxApart world.store.db.tables.inbox world.history fun other => (world.calls other).made? := by
  refine preservesBeside_made (fun store : DialerStore => InboxApart store.db.tables.inbox)
    (fun store history made pid call inv unmade unheard => ?_) ?_ ?_
  · have kept : ∀ {other : Nat} {command : OwnerCommandPayload} {request : DialerRequest}
        {value : request.Reply}, Told (history other) request value →
        (if other = pid then some call else made other) = some (.persist command) →
        made other = some (.persist command) := by
      intro other command request value told called
      split at called
      next own =>
        rw [own, unheard] at told
        cases told
      next => exact called
    exact
      { inv with
        unseen := fun other command called told => inv.unseen other command (kept told called) told
        seen := fun other command row called told =>
          inv.seen other command row (kept told called) told
        renamed := fun other command row called absent told =>
          inv.renamed other command row (kept told called) absent told }
  · intro world pid call tick request reply store standing inv called permitted met performed
    exact inboxApart_performs standing inv called permitted met performed
  · intro world label store standing inv met moved
    rw [(elsewhere_alone moved).inbox]
    exact inv

theorem told_of_pending {history : DialerHistory}
    (pending : Inside history fun work => .receipt row ∈ work.changes) :
    Told history (.insertReceipt row) () := by
  obtain ⟨earlier, ⟨request, reply⟩, later, rfl, writes, -⟩ := written_of_pending pending
  cases produces_effect writes
  exact mem_append_right _ mem_cons_self

def Sourced (inbox : List ObDialerCommandInbox) (history : Nat → DialerHistory) : Prop :=
  ∀ row ∈ inbox, ∃ pid, Told (history pid) (.insertReceipt row) ()

/-- What the base of the answers is. -/
def InboxKept (host : DialerHost) (world : DialerWorld) : Prop :=
  Standing host world ∧ InboxApart world.store.db.tables.inbox world.history
    fun other => (world.calls other).made?

theorem sourced_preserves :
    PreservesBeside (dialerMachine host) separateCommands (dialerProtocol host) (InboxKept host)
      fun world => Sourced world.store.db.tables.inbox world.history := by
  refine preservesBeside_made (fun (store : DialerStore) history _ =>
    Sourced store.db.tables.inbox history) (fun _ _ _ _ _ inv _ _ => inv) ?_ ?_
  · intro world pid call tick request reply store base inv called permitted met performed row mem
    rcases inbox_step base.1 base.2 permitted performed with same | ⟨work, written, found, changed, -, grown⟩
    · obtain ⟨other, told⟩ := inv row (same ▸ mem)
      exact ⟨other, told.performing⟩
    · rw [grown] at mem
      rcases mem_snoc.mp mem with old | rfl
      · obtain ⟨other, told⟩ := inv row old
        exact ⟨other, told.performing⟩
      · exact ⟨pid, (told_of_pending ⟨work, found, changed⟩).performing⟩
  · intro world label store base inv met moved
    rw [(elsewhere_alone moved).inbox]
    exact inv

theorem collide_comm (left right : ObDialerCommandInbox) : collide left right = collide right left := by
  have forth : ∀ {left right : ObDialerCommandInbox}, collide left right = true →
      collide right left = true := by
    intro left right clash
    simp only [collide, Bool.and_eq_true, Bool.or_eq_true, beq_iff_eq] at clash ⊢
    exact ⟨clash.1.symm, clash.2.imp Eq.symm And.symm⟩
  exact Bool.eq_iff_iff.mpr ⟨forth, forth⟩

variable {inbox : List ObDialerCommandInbox}

theorem eq_of_collide {left right : ObDialerCommandInbox}
    (apart : inbox.Pairwise fun left right => collide left right = false)
    (leftMember : left ∈ inbox) (rightMember : right ∈ inbox) (clash : collide left right = true) :
    left = right := by
  induction apart with
  | nil => cases leftMember
  | @cons first rest differs apart ih =>
      rcases mem_cons.mp leftMember with rfl | leftLater
      · rcases mem_cons.mp rightMember with rfl | rightLater
        · rfl
        · rw [differs right rightLater] at clash
          cases clash
      · rcases mem_cons.mp rightMember with rfl | rightLater
        · rw [collide_comm, differs left leftLater] at clash
          cases clash
        · exact ih leftLater rightLater

theorem ofRequest_only (apart : inbox.Pairwise fun left right => collide left right = false)
    (mem : row ∈ inbox) : inbox.filter (ofRequest row.actionKey row.requestHash) = [row] := by
  induction apart with
  | nil => cases mem
  | @cons first rest differs apart ih =>
      rcases mem_cons.mp mem with rfl | later
      · rw [filter_cons_of_pos (by simp [ofRequest]), filter_eq_nil_iff.mpr]
        intro other present
        have away := differs other present
        simp only [collide, Bool.and_eq_false_iff, Bool.or_eq_false_iff, beq_eq_false_iff_ne] at away
        simp only [ofRequest, Bool.and_eq_true, beq_iff_eq, not_and]
        intro action request
        rcases away with away | away
        · exact away action.symm
        · exact away.1 request.symm
      · have away := differs row later
        rw [filter_cons_of_neg, ih later]
        intro same
        simp only [ofRequest, Bool.and_eq_true, beq_iff_eq] at same
        simp [collide, same.1, same.2] at away

end Runs

structure OwnReceipt (world : DialerWorld) (command : OwnerCommandPayload)
    (row : ObDialerCommandInbox) : Prop where
  committed : row ∈ world.store.db.tables.inbox
  commandId : row.commandId = command.commandId
  actionKey : row.actionKey = command.actionKey
  requestHash : row.requestHash = command.requestHash
  commandType : row.commandType = command.intent.commandType
  decided : ∃ pid decider, Made world pid (.persist decider) ∧
    decider.commandId = command.commandId ∧ decider.actionKey = command.actionKey ∧
      decider.requestHash = command.requestHash ∧
        decider.intent.commandType = command.intent.commandType ∧
          Told (world.history pid) (.insertReceipt row) ()

/-- From here on a command is answered with a receipt: by every look-up of its action and request
that the connection does not fail, and by every query that starts from here and returns. -/
def AnsweredFrom (host : DialerHost) (system : System DialerWorkers
    (WorkerStep DialerTick DialerCall DialerElsewhere)) (workers : DialerWorkers)
    (command : OwnerCommandPayload) (row : ObDialerCommandInbox) : Prop :=
  ∀ later, system.Reaches workers later →
    (∀ pid tick, tick.fails = false →
      performDialer host pid tick (.findActionReceipt command.actionKey command.requestHash)
        later.world.store = some (.ok (some row), later.world.store)) ∧
    ∀ asker answer, workers.world.started ≤ asker →
      later.world.calls asker =
        .ended (.query ⟨command.actionKey, command.requestHash⟩) (.ok answer) →
      answer = .result (some (toOwnerResult row))

/-- In every state of a run, each command that was answered with its receipt has a receipt of its
own, which it is answered with from then on, and of the positive commands of an action at most one
has taken effect. -/
def OwnAnswers (host : DialerHost) (system : System DialerWorkers
    (WorkerStep DialerTick DialerCall DialerElsewhere)) : Prop :=
  ∀ workers, system.Reachable workers →
    (∀ left ∈ workers.world.store.db.tables.inbox, ∀ right ∈ workers.world.store.db.tables.inbox,
      effective left = true → effective right = true → left.actionKey = right.actionKey →
        left = right) ∧
    ∀ pid command answer, workers.world.calls pid = .ended (.persist command) (.ok answer) →
      answer = .persisted (persistedCommand command) ∧
        ∃ row, OwnReceipt workers.world command row ∧ AnsweredFrom host system workers command row

section Claim

variable {host : DialerHost} {workers : DialerWorkers}

abbrev separateRuns (host : DialerHost) :=
  Workers.runs (dialerMachine host) DialerStore.Fresh separateCommands

/-- The invariants of the inbox, all together. -/
def InboxSound (host : DialerHost) (world : DialerWorld) : Prop :=
  InboxKept host world ∧ Sourced world.store.db.tables.inbox world.history

theorem inboxSound_preserves :
    Preserves (dialerMachine host) separateCommands (dialerProtocol host) (InboxSound host) :=
  (standing_preserves.and inboxApart_preserves).and sourced_preserves

theorem inboxSound_initially (store : DialerStore) (fresh : store.Fresh) :
    InboxSound host (Workers.idle store : DialerWorkers).world := by
  have empty : store.db.tables.inbox = [] := fresh.2.1
  refine ⟨⟨standing_initially fresh, ?_⟩, ?_⟩
  · change InboxApart store.db.tables.inbox (fun _ => []) fun _ => none
    rw [empty]
    constructor
    · exact .nil
    · intro pid work row inside
      cases inside
    · intro pid command made
      cases made
    · intro pid actionKey commandType told
      exact absurd told not_mem_nil
    · intro pid command row made
      cases made
    · intro pid command row made
      cases made
    · rintro pid row ⟨earlier, shape, -⟩
      exact absurd shape.symm (by simp)
  · intro row mem
    change row ∈ store.db.tables.inbox at mem
    rw [empty] at mem
    cases mem

theorem ownReceipt_of_ended (sound : InboxSound host workers.world) {answer : DialerAnswer}
    (ended : workers.world.calls pid = .ended (.persist command) (.ok answer)) :
    answer = .persisted (persistedCommand command) ∧
      command.intent.commandType ∈ callbackCommandTypes ++ campaignTargetCommandTypes ∧
        ∃ row, OwnReceipt workers.world command row := by
  obtain ⟨⟨standing, apart⟩, sourced⟩ := sound
  obtain ⟨same, known, rests⟩ := standing.followed.answered pid _ _ ended answer rfl
  have made : (workers.world.calls pid).made? = some (.persist command) := by rw [ended]; rfl
  have decided : ∀ row ∈ workers.world.store.db.tables.inbox, ∃ pid decider id decision observedAt,
      Made workers.world pid (.persist decider) ∧ row = receiptOf id decider decision observedAt ∧
        Told (workers.world.history pid) (.insertReceipt row) () := by
    intro row mem
    obtain ⟨writer, told⟩ := sourced row mem
    obtain ⟨call, earlier, called, -, permitted⟩ := standing.permitted told
    obtain ⟨decider, rfl, id, decision, observedAt, named, -⟩ := permits_ofCommand rfl permitted
    exact ⟨writer, decider, id, decision, observedAt, called, named, told⟩
  have owned : ∀ row ∈ workers.world.store.db.tables.inbox, row.commandId = command.commandId →
      row.actionKey = command.actionKey → row.requestHash = command.requestHash →
      row.commandType = command.intent.commandType → OwnReceipt workers.world command row := by
    intro row mem commandId actionKey requestHash commandType
    refine ⟨mem, commandId, actionKey, requestHash, commandType, ?_⟩
    obtain ⟨writer, decider, id, decision, observedAt, called, rfl, told⟩ := decided row mem
    exact ⟨writer, decider, called, commandId, actionKey, requestHash, commandType, told⟩
  refine ⟨same, known, ?_⟩
  rcases rests with ⟨row, told, hashed⟩ | ⟨row, absent, told, hashed⟩ |
    ⟨id, decision, observedAt, recorded⟩
  · obtain ⟨mem, named, rest⟩ := apart.seen pid command row made told
    exact ⟨row, owned row mem named (rest hashed).1 hashed (rest hashed).2⟩
  · exact absurd hashed (apart.renamed pid command row made absent told)
  · exact ⟨_, owned _ (apart.recorded pid _ recorded) rfl rfl rfl rfl⟩

def ToldOnly (row : ObDialerCommandInbox) (first : Nat) (inbox : List ObDialerCommandInbox)
    (history : Nat → DialerHistory) : Prop :=
  row ∈ inbox ∧ ∀ asker, first ≤ asker → ∀ found,
    Told (history asker) (.findActionReceipt row.actionKey row.requestHash) found →
      found = some row

theorem toldOnly_preserves {first : Nat} :
    PreservesBeside (dialerMachine host) separateCommands (dialerProtocol host) (InboxSound host)
      fun world => ToldOnly row first world.store.db.tables.inbox world.history := by
  refine preservesBeside_made (fun (store : DialerStore) history _ =>
    ToldOnly row first store.db.tables.inbox history) (fun _ _ _ _ _ inv _ _ => inv) ?_ ?_
  · intro world pid call tick request reply store sound inv called permitted met performed
    obtain ⟨standing, apart⟩ := sound.1
    refine ⟨inbox_grows standing apart permitted performed row inv.1, ?_⟩
    intro asker from_ found told
    rcases told_performing told with told | ⟨-, same⟩
    · exact inv.2 asker from_ found told
    · cases same
      rw [(look_answered performed rfl).2, ofRequest_only apart.apart inv.1, anyOf,
        length_singleton, Nat.mod_one]
      rfl
  · intro world label store sound inv met moved
    rw [(elsewhere_alone moved).inbox]
    exact inv

theorem inboxKept_of_reachable (reachable : (separateRuns host).Reachable workers) :
    Kept (dialerProtocol host) (InboxSound host) workers :=
  inboxSound_preserves.kept (dialer_conforms host) inboxSound_initially reachable

theorem answeredFrom (kept : Kept (dialerProtocol host) (InboxSound host) workers)
    (known : command.intent.commandType ∈ callbackCommandTypes ++ campaignTargetCommandTypes)
    (own : OwnReceipt workers.world command row) :
    AnsweredFrom host (separateRuns host) workers command row := by
  intro later run
  have unheard : ∀ asker, workers.world.started ≤ asker → workers.world.history asker = [] := by
    intro asker from_
    rw [World.history, map_eq_nil_iff, World.mine, filter_eq_nil_iff]
    intro entry mem
    have before := kept.conforming.journaled entry mem
    simp only [beq_iff_eq]
    omega
  have first : ToldOnly row workers.world.started workers.world.store.db.tables.inbox
      workers.world.history := by
    refine ⟨own.committed, fun asker from_ found told => ?_⟩
    rw [Told, unheard asker from_] at told
    cases told
  have last := (inboxSound_preserves.and toldOnly_preserves).keeps (dialer_conforms host)
    ⟨⟨kept.inv, first⟩, kept.conforming⟩ run
  obtain ⟨⟨⟨⟨standing, apart⟩, -⟩, mem, told⟩, -⟩ := last
  rw [← own.actionKey, ← own.requestHash]
  refine ⟨fun pid tick holds => ?_, fun asker answer from_ ended => ?_⟩
  · simp only [performDialer, holds, Bool.false_eq_true, if_false, answer,
      ofRequest_only apart.apart mem, anyOf, length_singleton, Nat.mod_one,
      getElem?_cons_zero]
  · obtain ⟨result, rfl, found, asked, rfl⟩ := standing.followed.answered asker _ _ ended _ rfl
    rw [told asker from_ found asked]
    have typed : row.commandType ∈ callbackCommandTypes ++ campaignTargetCommandTypes :=
      own.commandType ▸ known
    simp only [Option.filter_some, decide_eq_true_eq, typed, if_true, Option.map_some]

/-- The dialer answers every command with its own decision in every run in which the commands stand
apart. -/
theorem own_answers_of_separate (host : DialerHost) : OwnAnswers host (separateRuns host) := by
  intro workers reachable
  have kept := inboxKept_of_reachable reachable
  have apart := kept.inv.1.2.apart
  refine ⟨fun left leftMember right rightMember leftTook rightTook action => ?_,
    fun pid command answer ended => ?_⟩
  · exact eq_of_collide apart leftMember rightMember (by simp [collide, leftTook, rightTook, action])
  · obtain ⟨same, known, row, own⟩ := ownReceipt_of_ended kept.inv ended
    exact ⟨same, row, own, answeredFrom kept known own⟩

end Claim

def idleCancel (commandId : String) : OwnerCommandPayload :=
  pilotCommand commandId "cancel" "request" (.cancelCallback ⟨"no action", "REASON"⟩)

/-- Two commands that cancel under one action and request are both accepted, and the second is
answered with the receipt of the first. -/
theorem own_answers_fail :
    ¬ OwnAnswers pilotHost (Workers.system (dialerMachine pilotHost) DialerStore.Fresh) := by
  have ends : System.endsWith (Workers.next (dialerMachine pilotHost)) (Workers.idle pilotStore)
      ([.start (.persist (idleCancel "first"))] ++ pilotRun 0 8 (pilotTick 1 "a") ++
        [.start (.persist (idleCancel "second"))] ++ List.replicate 8 (.perform 1 (pilotTick 1 "b")))
      (.finish 1) (fun _ after => decide (after.world.calls 1 =
        .ended (.persist (idleCancel "second"))
          (.ok (.persisted (persistedCommand (idleCancel "second"))))) &&
        (anyOf (after.world.store.db.tables.inbox.filter (ofRequest "cancel" "request")) 0).any
          fun row => row.commandId == "first") = true := by decide +kernel
  obtain ⟨before, after, reachable, taken, found⟩ := Workers.endsWith pilotStore_fresh ends
  intro claimed
  obtain ⟨-, accepted⟩ := claimed after (reachable.step taken)
  obtain ⟨ended, first⟩ := Bool.and_eq_true_iff.mp found
  obtain ⟨-, row, own, answered⟩ := accepted 1 _ _ (of_decide_eq_true ended)
  have told := (look_answered ((answered after .refl).1 2 (pilotTick 1 "c") rfl) rfl).2
  have named : row.commandId = "first" := by
    rw [show anyOf (after.world.store.db.tables.inbox.filter (ofRequest "cancel" "request")) 0 =
      some row from told.symm] at first
    exact beq_iff_eq.mp first
  exact absurd (named.symm.trans own.commandId) (by decide)

end DContact.Dialer

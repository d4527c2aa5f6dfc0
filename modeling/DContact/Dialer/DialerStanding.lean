import DContact.Dialer.BarrierConformance

/-!
# What every run of the dialer keeps

The transaction of a session is the one that the history of its worker tells, no advisory lock is
held twice, and every request was permitted when it was made.
-/

namespace DContact.Dialer

open Lib
open Journey (OwnerCommandPayload OwnerCommandType)

/-- What holds of every world that a run reaches. -/
structure Standing (host : DialerHost) (world : DialerWorld) : Prop where
  inside : ∀ pid, world.store.db.inside pid = transactionOf (world.history pid)
  apart : world.store.db.LocksApart
  followed : Followed (dialerProtocol host) world

/-- The call of a worker, whatever has become of it. -/
def Made (world : DialerWorld) (pid : Nat) (call : DialerCall) : Prop :=
  (world.calls pid).made? = some call

section Standing

variable {host : DialerHost} {condition : DialerCondition} {world : DialerWorld} {pid : Nat}
  {tick : DialerTick} {store : DialerStore} {label : DialerElsewhere} {before : DialerStore}

/-- What no one outside the dialer ever moves. -/
structure LeftAlone (before after : DialerStore) : Prop where
  sessions : after.db.sessions = before.db.sessions
  inbox : after.db.tables.inbox = before.db.tables.inbox
  callbacks : after.db.tables.callbacks = before.db.tables.callbacks
  targets : after.db.tables.targets = before.db.tables.targets
  now : after.now = before.now

theorem elsewhere_alone {after : DialerStore} (moved : before.elsewhere host label = some after) :
    LeftAlone before after := by
  unfold DialerStore.elsewhere at moved
  split at moved
  next => cases moved; exact ⟨rfl, rfl, rfl, rfl, rfl⟩
  next =>
    split at moved
    next => cases moved; exact ⟨rfl, rfl, rfl, rfl, rfl⟩
    next => cases moved
  next => cases moved; exact ⟨rfl, rfl, rfl, rfl, rfl⟩
  next => cases moved; exact ⟨rfl, rfl, rfl, rfl, rfl⟩

theorem standing_preserves : Preserves (dialerMachine host) condition (dialerProtocol host)
    (Standing host) where
  starts := fun world call inv unused unheard =>
    ⟨inv.inside, inv.apart,
      (followed (dialerMachine host) condition _).starts world call inv.followed unused unheard⟩
  performs := by
    intro world pid call tick request reply store inv called permitted met performed
    have moved := performDialer_moved performed
    refine ⟨fun other => ?_, inv.apart.moved moved,
      (followed (dialerMachine host) condition _).performs world pid call tick request reply store
        inv.followed called permitted met performed⟩
    rw [World.history_performing]
    split
    next own =>
      rw [own, transactionOf_append, ← inv.inside pid]
      exact moved.inside
    next differs => exact (moved.others differs).trans (inv.inside other)
  ends := fun world pid call result inv called post =>
    ⟨inv.inside, inv.apart,
      (followed (dialerMachine host) condition _).ends world pid call result inv.followed called post⟩
  crashes := fun world pid call inv called =>
    ⟨inv.inside, inv.apart,
      (followed (dialerMachine host) condition _).crashes world pid call inv.followed called⟩
  elsewhere := by
    intro world label store inv _ moved
    have same := (elsewhere_alone moved).sessions
    have inside : ∀ pid, store.db.inside pid = world.store.db.inside pid := fun pid => by
      rw [Database.inside, Database.inside, same]
    refine ⟨fun pid => (inside pid).trans (inv.inside pid), ?_,
      ⟨inv.followed.permitted, inv.followed.answered⟩⟩
    intro left right key leftHolds rightHolds
    refine inv.apart left right key ?_ ?_
    · exact leftHolds.imp fun work holds => ⟨(inside left).symm.trans holds.1, holds.2⟩
    · exact rightHolds.imp fun work holds => ⟨(inside right).symm.trans holds.1, holds.2⟩

theorem standing_initially (fresh : store.Fresh) :
    Standing host (Workers.idle store : DialerWorkers).world where
  inside := fun pid => by
    change Session.find store.db.sessions pid = none
    rw [fresh.1]
    rfl
  apart := by
    rintro left right key ⟨work, found, -⟩
    change Session.find store.db.sessions left = some work at found
    rw [fresh.1] at found
    cases found
  followed := followed_idle store

theorem Standing.same (standing : Standing host world) {left right : Nat} {key : DialerLock}
    (leftHolds : Inside (world.history left) fun work => key ∈ work.locks)
    (rightHolds : Inside (world.history right) fun work => key ∈ work.locks) : left = right := by
  obtain ⟨leftWork, leftFound, leftMember⟩ := leftHolds
  obtain ⟨rightWork, rightFound, rightMember⟩ := rightHolds
  exact standing.apart left right key ⟨leftWork, (standing.inside left).trans leftFound, leftMember⟩
    ⟨rightWork, (standing.inside right).trans rightFound, rightMember⟩

theorem Standing.permitted (standing : Standing host world) {exchange : DialerExchange}
    (mem : exchange ∈ world.history pid) :
    ∃ call earlier, Made world pid call ∧ earlier <+: world.history pid ∧
      (dialerProtocol host).permits call earlier exchange.request := by
  obtain ⟨earlier, later, shape⟩ := List.append_of_mem mem
  obtain ⟨call, made, permitted⟩ := standing.followed.permitted pid earlier exchange later shape
  exact ⟨call, earlier, made, ⟨exchange :: later, shape.symm⟩, permitted⟩

end Standing

def ofCommand : DialerRequest → Bool
  | .begin_ | .commit | .rollback | .lock _ | .insertReceipt _ | .createCallback _ |
    .createTarget _ => true
  | _ => false

variable {call : DialerCall} {history : DialerHistory} {request : DialerRequest} {host : DialerHost}

theorem permits_ofCommand (inside : ofCommand request = true)
    (permitted : (dialerProtocol host).permits call history request) :
    ∃ command, call = .persist command ∧ persistPermits command history request := by
  cases call with
  | persist command => exact ⟨command, rfl, permitted⟩
  | query query =>
      have looking := permitted.2
      cases request <;> first | exact absurd inside Bool.false_ne_true |
        exact absurd looking Bool.false_ne_true
  | reconcile correlationId batchSize =>
      obtain ⟨-, looking | ⟨_, _, same⟩⟩ := permitted <;>
        cases request <;> first | exact absurd inside Bool.false_ne_true |
          exact absurd looking Bool.false_ne_true | cases same
  | _ =>
      obtain ⟨-, looking | ⟨_, same⟩ | ⟨_, _, same, -⟩ | ⟨_, same, -⟩⟩ := permitted <;>
        cases request <;> first | exact absurd inside Bool.false_ne_true |
          exact absurd looking Bool.false_ne_true | cases same

variable {work : DialerTransaction}

theorem permits_inside (inside : transactionOf history = some work)
    (permitted : (dialerProtocol host).permits call history request) :
    ∃ command, call = .persist command ∧ persistPermits command history request := by
  cases call with
  | persist command => exact ⟨command, rfl, permitted⟩
  | query query => exact absurd (permitted.1.symm.trans inside) (by simp)
  | reconcile correlationId batchSize => exact absurd (permitted.1.symm.trans inside) (by simp)
  | _ =>
      exact absurd (permitted.1.symm.trans inside) (by simp)

/-- The transaction of a worker that has looked something up is the one that it looked in. -/
theorem open_before {world : DialerWorld} {pid other : Nat} {store : DialerStore}
    {reply : Except DialerError request.Reply} {next : DialerTransaction}
    {asked : DialerRequest} {value : asked.Reply}
    (permitted : (dialerProtocol host).permits call (world.history pid) request)
    (told : Told (world.history other) asked value)
    (inside : transactionOf ((world.performing pid request reply store).history other) = some next) :
    ∃ work, transactionOf (world.history other) = some work ∧ work.locks ⊆ next.locks ∧
      (other = pid → (⟨request, reply⟩ : DialerExchange) ≠ ⟨.commit, .ok ()⟩) := by
  rw [World.history_performing] at inside
  split at inside
  next own =>
    subst own
    have running : (⟨request, reply⟩ : DialerExchange) ≠ ⟨.commit, .ok ()⟩ := by
      intro commits
      rw [commits, transactionOf_append] at inside
      cases inside
    rw [transactionOf_append] at inside
    rcases Database.Effect.within_some inside with ⟨begins, -⟩ | ⟨work, found, ⟨-, same⟩ |
      ⟨key, -, rfl⟩ | ⟨change, -, rfl⟩⟩
    · cases produces_effect begins
      obtain ⟨command, -, first⟩ := permits_ofCommand rfl permitted
      rw [show world.history other = [] from first] at told
      cases told
    · exact ⟨work, found, same ▸ List.Subset.refl _, fun _ => running⟩
    · exact ⟨work, found, List.subset_cons_self .., fun _ => running⟩
    · exact ⟨work, found, List.Subset.refl _, fun _ => running⟩
  next differs => exact ⟨next, inside, List.Subset.refl _, fun own => absurd own differs⟩

theorem written_of_pending {change : DialerChange}
    (pending : Inside history fun work => change ∈ work.changes) :
    ∃ earlier exchange later, history = earlier ++ exchange :: later ∧
      effectOf exchange.request exchange.reply = .write change ∧
        ∃ work, transactionOf earlier = some work := by
  induction history using List.reverseRecOn with
  | nil =>
      obtain ⟨work, found, -⟩ := pending
      cases found
  | append_singleton before last ih =>
      have old : (Inside before fun work => change ∈ work.changes) →
          ∃ earlier exchange later, before ++ [last] = earlier ++ exchange :: later ∧
            effectOf exchange.request exchange.reply = .write change ∧
              ∃ work, transactionOf earlier = some work := by
        intro pending
        obtain ⟨earlier, exchange, later, shape, rest⟩ := ih pending
        exact ⟨earlier, exchange, later ++ [last], by rw [shape]; simp, rest⟩
      obtain ⟨next, found, mem⟩ := pending
      rw [show before ++ [last] = before ++ [⟨last.request, last.reply⟩] from rfl,
        transactionOf_append] at found
      rcases Database.Effect.within_some found with ⟨-, rfl⟩ | ⟨work, inside, ⟨-, same⟩ |
        ⟨key, -, rfl⟩ | ⟨written, writes, rfl⟩⟩
      · cases mem
      · exact old ⟨work, inside, same ▸ mem⟩
      · exact old ⟨work, inside, mem⟩
      · rcases List.mem_append.mp mem with earlier | new
        · exact old ⟨work, inside, earlier⟩
        · cases List.mem_singleton.mp new
          exact ⟨before, last, [], rfl, writes, work, inside⟩

variable {pid : Nat}

theorem Standing.pending {world : DialerWorld} (standing : Standing host world)
    {change : DialerChange}
    (pending : Inside (world.history pid) fun work => change ∈ work.changes) :
    ∃ exchange : DialerExchange, effectOf exchange.request exchange.reply = .write change ∧
      ∃ command earlier, Made world pid (.persist command) ∧
        earlier ++ [exchange] <+: world.history pid ∧
          persistPermits command earlier exchange.request := by
  obtain ⟨earlier, exchange, later, shape, writes, work, inside⟩ := written_of_pending pending
  obtain ⟨call, made, permitted⟩ := standing.followed.permitted pid earlier exchange later shape
  obtain ⟨command, rfl, permitted⟩ := permits_inside inside permitted
  exact ⟨exchange, writes, command, earlier, made, ⟨later, by rw [shape]; simp⟩, permitted⟩

def receiptsOf (changes : List DialerChange) : List ObDialerCommandInbox :=
  changes.filterMap fun
    | .receipt row => some row
    | _ => none

theorem mem_receiptsOf {changes : List DialerChange} {row : ObDialerCommandInbox} :
    row ∈ receiptsOf changes ↔ .receipt row ∈ changes := by
  simp only [receiptsOf, List.mem_filterMap]
  constructor
  · rintro ⟨change, mem, found⟩
    cases change with
    | receipt other =>
        cases found
        exact mem
    | _ => cases found
  · exact fun mem => ⟨_, mem, rfl⟩

theorem inbox_publish (changes : List DialerChange) (tables : DialerTables) :
    (Database.publish dialerWrites changes tables).inbox = tables.inbox ++ receiptsOf changes := by
  induction changes generalizing tables with
  | nil => simp [Database.publish, receiptsOf]
  | cons change rest ih =>
      have step := ih (DialerChange.apply change tables)
      simp only [Database.publish, List.foldl_cons] at step ⊢
      refine step.trans ?_
      cases change <;> simp [DialerChange.apply, receiptsOf]

variable {db : DialerDatabase}

theorem inbox_moved {after : DialerDatabase} {effect : DialerEffect}
    (moved : Database.Moved dialerWrites db pid effect after) :
    after.tables.inbox = db.tables.inbox ∨
      (effect = .commit ∧ ∃ work, db.inside pid = some work ∧
        after.tables.inbox = db.tables.inbox ++ receiptsOf work.changes) ∨
      (db.inside pid = none ∧ ∃ row, effect = .write (.receipt row)) := by
  cases moved with
  | commit =>
      unfold Database.commit
      split
      next => exact .inl rfl
      next work found => exact .inr (.inl ⟨rfl, work, found, inbox_publish ..⟩)
  | lock locked =>
      rcases Database.lock_some locked with ⟨-, rfl⟩ | ⟨work, -, -, rfl⟩ <;> exact .inl rfl
  | @write change _ written =>
      rcases (Database.write_some written).2 with ⟨outside, rfl⟩ | ⟨work, -, rfl⟩
      · cases change with
        | receipt row => exact .inr (.inr ⟨outside, row, rfl⟩)
        | _ => exact .inl rfl
      · exact .inl rfl
  | _ => exact .inl rfl

theorem inbox_commit {after : DialerDatabase}
    (moved : Database.Moved dialerWrites db pid .commit after) (found : db.inside pid = some work) :
    after.tables.inbox = db.tables.inbox ++ receiptsOf work.changes := by
  cases moved
  rw [Database.commit, found]
  exact inbox_publish ..

section Answers

variable {tick : DialerTick} {store after : DialerStore}

/-- A look answers what it finds, and changes nothing. -/
theorem look_answered {look : DialerRequest} {found value : look.Reply}
    (performed : performDialer host pid tick look store = some (.ok found, after))
    (looks : answer host pid tick look store = some (.ok value, store)) :
    after = store ∧ found = value := by
  cases looks.symm.trans (answer_of_ok performed)
  exact ⟨rfl, rfl⟩

end Answers

end DContact.Dialer

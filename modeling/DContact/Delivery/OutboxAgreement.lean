import DContact.Delivery.DeliveryTestAdapter
import DContact.Governance.SettlementFinality

/-!
# The outbox and governance agree

Governance settles first and answers every later outcome with the reservation as it is, but the
adapter writes the outcome that it was told to its own entry. The two agree as long as no worker
settles a reservation that has another terminal outcome. The transport is reached by the one worker
that moves the entry on from the queue.
-/

namespace DContact.Delivery

open Lib List Discipline Workers
open Governance (Accountable DeliveryOutcome Instant RuntimeCommand RuntimeStore SettledWith
  SettlementView StoreLater TerminalOutcome findReservation settledOutcome)
open Journey.Send (DlDeliveryAdapter DlDeliveryState bindingErrorCode)
open AdapterProgram

/-! ## What is claimed of a run -/

abbrev DeliveryWorld :=
  World DeliveryStore AdapterRequest AdapterRequest.Reply DeliveryCall DeliveryError DeliveryAnswer

def transmits (deliveryId : String) (entry : Performed AdapterRequest AdapterRequest.Reply DeliveryError) :
    Bool :=
  match entry.request with
  | .transport request => request.deliveryId == deliveryId
  | _ => false

/-- The delivery reached the transport once at most, and a settled entry carries the terminal outcome
of its reservation. -/
structure OutboxAgrees (host : DeliveryHost) (world : DeliveryWorld) : Prop where
  submittedOnce : ∀ deliveryId, (world.journal.filter (transmits deliveryId)).length ≤ 1
  outcome : ∀ deliveryId entry,
    findByDeliveryId .testAdapter world.store.outbox deliveryId = some entry →
    entry.state = .settled →
      ∃ row, findReservation world.store.governance host.tenantId entry.reservationId = some row ∧
        row.terminalOutcome = entry.outcome ∧ row.terminalOutcomeRef = entry.outcomeRef

def settlesAlone (store : RuntimeStore) (command : RuntimeCommand) : Bool :=
  match command.operation with
  | .settle input =>
      match input.outcome, findReservation store command.tenantId command.reservationId with
      | .terminal outcome, some row =>
          row.terminalOutcome.isNone || row.terminalOutcome == some outcome &&
            row.terminalOutcomeRef == some input.outcomeRef
      | _, _ => true
  | _ => true

/-- A step that does not ask governance to settle a reservation against its outcome. -/
def unrivalled (workers : Workers DeliveryStore AdapterRequest AdapterRequest.Reply DeliveryCall
    DeliveryError DeliveryAnswer) (step : WorkerStep AdapterTick DeliveryCall DeliveryElsewhere) :
    Bool :=
  match workers.requestOf step with
  | some (_, .governance command) => settlesAlone workers.world.store.governance command
  | _ => true

/-! ## The invariant -/

/-- The update has moved the entry on from the queue. -/
def passes (deliveryId : String) (entry : Performed AdapterRequest AdapterRequest.Reply DeliveryError) :
    Bool :=
  match entry with
  | ⟨_, .advance target expected _, .ok (some _)⟩ => target == deliveryId && expected == [.queued]
  | _ => false

structure HandedOver (world : DeliveryWorld) (deliveryId : String) : Prop where
  passedOnce : (world.journal.filter (passes deliveryId)).length ≤ 1
  left : ∀ step ∈ world.journal, passes deliveryId step = true →
    ∃ entry, findByDeliveryId .testAdapter world.store.outbox deliveryId = some entry ∧
      entry.state ≠ .queued
  passed : ∀ step ∈ world.journal, transmits deliveryId step = true →
    ∃ earlier ∈ world.journal, passes deliveryId earlier = true ∧ earlier.pid = step.pid
  submittedOnce : (world.journal.filter (transmits deliveryId)).length ≤ 1

structure DeliveryInv (host : DeliveryHost) (world : DeliveryWorld) : Prop where
  distinct : Distinct world.store.outbox
  accountable : Accountable host.runtime world.store.governance
  settled : ∀ deliveryId entry,
    findByDeliveryId .testAdapter world.store.outbox deliveryId = some entry →
    entry.state = .settled → ∃ outcome outcomeRef, entry.outcome = some outcome ∧
      entry.outcomeRef = some outcomeRef ∧
      SettledWith world.store.governance host.tenantId entry.reservationId outcome outcomeRef
  handedOver : ∀ deliveryId, HandedOver world deliveryId

/-- What everyone may rely on: outcomes are final, and an entry stays the entry it is. -/
structure DeliveryMoves (before after : DeliveryWorld) : Prop where
  settled : ∀ tenantId reservationId outcome outcomeRef,
    SettledWith before.store.governance tenantId reservationId outcome outcomeRef →
    SettledWith after.store.governance tenantId reservationId outcome outcomeRef
  entries : ∀ deliveryId entry,
    findByDeliveryId .testAdapter before.store.outbox deliveryId = some entry →
    ∃ later, findByDeliveryId .testAdapter after.store.outbox deliveryId = some later ∧
      later.command = entry.command

theorem DeliveryMoves.refl (world : DeliveryWorld) : DeliveryMoves world world :=
  ⟨fun _ _ _ _ settled => settled, fun _ entry known => ⟨entry, known, rfl⟩⟩

theorem DeliveryMoves.trans {first second third : DeliveryWorld}
    (left : DeliveryMoves first second) (right : DeliveryMoves second third) :
    DeliveryMoves first third where
  settled tenantId reservationId outcome outcomeRef holds :=
    right.settled _ _ _ _ (left.settled tenantId reservationId outcome outcomeRef holds)
  entries := Table.found_trans (fun before after => after.trans before) left.entries right.entries

def deliveryDiscipline (host : DeliveryHost) : Discipline (deliveryMachine host) where
  inv := DeliveryInv host
  relies _ := DeliveryMoves
  allows world _ _ request :=
    ∀ command, request = .governance command →
      settlesAlone world.store.governance command = true
  relies_refl _ := DeliveryMoves.refl
  relies_trans _ _ _ _ := DeliveryMoves.trans

/-! ## One request -/

variable {request : AdapterRequest} {deliveryId : String} {data : OutboxPatch}
  {store : DeliveryStore}

section Requests

variable {host : DeliveryHost} {pid : Nat} {world before : DeliveryWorld}
  {reply : Except DeliveryError request.Reply}

theorem mine_performing :
    (before.performing pid request reply store).mine pid =
      before.mine pid ++ [⟨pid, request, reply⟩] := by
  simp [World.mine, World.performing]

theorem mem_of_mine {step : Performed AdapterRequest AdapterRequest.Reply DeliveryError}
    (own : step ∈ before.mine pid) : step ∈ before.journal ∧ step.pid = pid := by
  simpa [World.mine] using own

theorem HandedOver.quiet (handed : HandedOver before deliveryId)
    (silent : transmits deliveryId ⟨pid, request, reply⟩ = false)
    (stays : passes deliveryId ⟨pid, request, reply⟩ = false)
    (left : ∀ entry, findByDeliveryId .testAdapter before.store.outbox deliveryId = some entry →
      entry.state ≠ .queued → ∃ later,
        findByDeliveryId .testAdapter store.outbox deliveryId = some later ∧
          later.state ≠ .queued) :
    HandedOver (before.performing pid request reply store) deliveryId where
  passedOnce := by
    simp only [World.performing, filter_append, filter_singleton, stays, cond_false, append_nil]
    exact handed.passedOnce
  left := by
    intro step mem passed
    rcases mem_snoc.mp mem with old | rfl
    · obtain ⟨entry, known, moved⟩ := handed.left step old passed
      exact left entry known moved
    · rw [stays] at passed
      cases passed
  passed := by
    intro step mem sent
    rcases mem_snoc.mp mem with old | rfl
    · obtain ⟨earlier, present, passed, same⟩ := handed.passed step old sent
      exact ⟨earlier, mem_append_left _ present, passed, same⟩
    · rw [silent] at sent
      cases sent
  submittedOnce := by
    simp only [World.performing, filter_append, filter_singleton, silent, cond_false, append_nil]
    exact handed.submittedOnce

/-- The update that moves the delivery on from the queue is the first one. -/
theorem HandedOver.passing {moved : DlOutboxEntry} (handed : HandedOver before deliveryId)
    (queued : ∀ entry, findByDeliveryId .testAdapter before.store.outbox deliveryId = some entry →
      entry.state = .queued)
    (known : findByDeliveryId .testAdapter store.outbox deliveryId = some moved)
    (later : moved.state ≠ .queued) :
    HandedOver (before.performing pid (.advance deliveryId [.queued] data) (.ok (some moved)) store)
      deliveryId := by
  have none_ : before.journal.filter (passes deliveryId) = [] := by
    refine filter_eq_nil_iff.mpr fun step mem passed => ?_
    obtain ⟨entry, present, left⟩ := handed.left step mem passed
    exact left (queued entry present)
  have unsent : before.journal.filter (transmits deliveryId) = [] := by
    refine filter_eq_nil_iff.mpr fun step mem sent => ?_
    obtain ⟨earlier, present, passed, -⟩ := handed.passed step mem sent
    have absent := filter_eq_nil_iff.mp none_ earlier present
    exact absent passed
  refine ⟨?_, ?_, ?_, ?_⟩
  · simp only [World.performing, filter_append, none_, nil_append]
    exact length_filter_le _ _
  · intro step mem passed
    exact ⟨moved, known, later⟩
  · intro step mem sent
    rcases mem_snoc.mp mem with old | rfl
    · have absent := filter_eq_nil_iff.mp unsent step old
      exact absurd sent absent
    · cases sent
  · simp only [World.performing, filter_append, unsent, nil_append]
    exact length_filter_le _ _

variable {expected : List DlDeliveryState} {outbox : List DlOutboxEntry}

/-- An update never moves an entry back to the queue. -/
theorem HandedOver.advancing {found : String} {reply : Option DlOutboxEntry}
    (handed : HandedOver before found) (onward : data.state ≠ .queued)
    (advanced : Advanced .testAdapter before.store.outbox deliveryId expected data reply outbox) :
    HandedOver (before.performing pid (.advance deliveryId expected data) (.ok reply)
      { before.store with outbox := outbox }) found := by
  have left : ∀ entry, findByDeliveryId .testAdapter before.store.outbox found = some entry →
      entry.state ≠ .queued → ∃ later, findByDeliveryId .testAdapter outbox found = some later ∧
        later.state ≠ .queued := by
    intro entry known moved
    rcases advanced.lookup found with same | ⟨-, earlier, -, -, written, -⟩
    · exact ⟨entry, same.trans known, moved⟩
    · exact ⟨_, written, onward⟩
  cases stays : passes found ⟨pid, .advance deliveryId expected data, .ok reply⟩ with
  | false => exact handed.quiet rfl stays left
  | true =>
      cases advanced with
      | missed => cases stays
      | @moved entry known awaited =>
          simp only [passes, Bool.and_eq_true, beq_iff_eq] at stays
          obtain ⟨rfl, rfl⟩ := stays
          refine handed.passing ?_ (findByDeliveryId_written known) onward
          intro other present
          rw [known] at present
          cases present
          exact mem_singleton.mp awaited

theorem sole_mem {α : Type} {items : List α} {left right : α} (sole : items.length ≤ 1)
    (leftMember : left ∈ items) (rightMember : right ∈ items) : left = right := by
  match items, sole with
  | [], _ => cases leftMember
  | [only], _ => rw [mem_singleton.mp leftMember, mem_singleton.mp rightMember]

theorem HandedOver.transmitting {request : TransportRequest}
    {reply : Except DeliveryError TransportResponse}
    (handed : HandedOver before deliveryId)
    (own : deliveryId = request.deliveryId →
      (∃ step ∈ before.mine pid, passes deliveryId step = true) ∧
        ∀ step ∈ before.mine pid, transmits deliveryId step = false) :
    HandedOver (before.performing pid (.transport request) reply before.store) deliveryId := by
  by_cases target : deliveryId = request.deliveryId
  · obtain ⟨⟨pass, passMine, passed⟩, silent⟩ := own target
    obtain ⟨passMember, passPid⟩ := mem_of_mine passMine
    have unsent : before.journal.filter (transmits deliveryId) = [] := by
      refine filter_eq_nil_iff.mpr fun step mem sent => ?_
      obtain ⟨earlier, present, passed', same⟩ := handed.passed step mem sent
      have equal : earlier = pass := sole_mem handed.passedOnce
        (mem_filter.mpr ⟨present, passed'⟩) (mem_filter.mpr ⟨passMember, passed⟩)
      have stepMine : step ∈ before.mine pid := by
        refine mem_filter.mpr ⟨mem, ?_⟩
        rw [← same, equal, passPid, beq_self_eq_true]
      rw [silent step stepMine] at sent
      cases sent
    refine ⟨?_, ?_, ?_, ?_⟩
    · simp only [World.performing, filter_append]
      exact (Nat.le_of_eq (length_append ..)).trans handed.passedOnce
    · intro step mem passed'
      rcases mem_snoc.mp mem with old | rfl
      · exact handed.left step old passed'
      · cases passed'
    · intro step mem sent
      rcases mem_snoc.mp mem with old | rfl
      · have absent := filter_eq_nil_iff.mp unsent step old
        exact absurd sent absent
      · exact ⟨pass, mem_append_left _ passMember, passed, passPid⟩
    · simp only [World.performing, filter_append, unsent, nil_append]
      exact length_filter_le _ _
  · refine handed.quiet ?_ rfl fun entry known moved => ⟨entry, known, moved⟩
    simpa [transmits] using Ne.symm target

/-! ## What a request needs and leaves -/

/-- What the worker must know before it makes a request. -/
def Permits (host : DeliveryHost) (pid : Nat) (before : DeliveryWorld) : AdapterRequest → Prop
  | .advance deliveryId _ data =>
      data.state ≠ .queued ∧ (data.state = .settled → ∀ entry,
        findByDeliveryId .testAdapter before.store.outbox deliveryId = some entry →
          ∃ outcome outcomeRef, data.outcome = some outcome ∧ data.outcomeRef = some outcomeRef ∧
            SettledWith before.store.governance host.tenantId entry.reservationId outcome outcomeRef)
  | .transport request =>
      (∃ step ∈ before.mine pid, passes request.deliveryId step = true) ∧
        ∀ step ∈ before.mine pid, transmits request.deliveryId step = false
  | _ => True

/-- What a request leaves, with the requests of the others. -/
structure Leaves (host : DeliveryHost) (before after : DeliveryWorld) : Prop where
  inv : DeliveryInv host after
  moves : DeliveryMoves before after

theorem DeliveryInv.governing {governance : RuntimeStore} (inv : DeliveryInv host before)
    (quiet : ∀ deliveryId, transmits deliveryId ⟨pid, request, reply⟩ = false ∧
      passes deliveryId ⟨pid, request, reply⟩ = false)
    (accountable : Accountable host.runtime governance)
    (later : StoreLater before.store.governance governance) :
    Leaves host before
      (before.performing pid request reply { before.store with governance := governance }) where
  inv := { inv with
    accountable := accountable
    settled := by
      intro deliveryId entry known settled
      obtain ⟨outcome, outcomeRef, given, reference, holds⟩ :=
        inv.settled deliveryId entry known settled
      exact ⟨outcome, outcomeRef, given, reference, holds.later inv.accountable.safe later⟩
    handedOver := fun deliveryId => (inv.handedOver deliveryId).quiet (quiet deliveryId).1
      (quiet deliveryId).2 fun entry known moved => ⟨entry, known, moved⟩ }
  moves := ⟨fun _ _ _ _ settled => settled.later inv.accountable.safe later,
    fun _ entry known => ⟨entry, known, rfl⟩⟩

theorem StoreLater.refl (store : RuntimeStore) : StoreLater store store :=
  fun row mem => ⟨row, mem, .refl row⟩

theorem DeliveryInv.reading (inv : DeliveryInv host before)
    (quiet : ∀ deliveryId, transmits deliveryId ⟨pid, request, reply⟩ = false ∧
      passes deliveryId ⟨pid, request, reply⟩ = false) :
    Leaves host before (before.performing pid request reply before.store) :=
  inv.governing quiet inv.accountable (StoreLater.refl _)

theorem DeliveryInv.advancing {reply : Option DlOutboxEntry} (inv : DeliveryInv host before)
    (permits : Permits host pid before (.advance deliveryId expected data))
    (advanced : Advanced .testAdapter before.store.outbox deliveryId expected data reply outbox) :
    Leaves host before (before.performing pid (.advance deliveryId expected data) (.ok reply)
      { before.store with outbox := outbox }) where
  inv := { inv with
    distinct := advanced.distinct inv.distinct
    settled := by
      intro found entry known settled
      rcases advanced.lookup found with same | ⟨rfl, earlier, present, -, written, -⟩
      · exact inv.settled found entry (same ▸ known) settled
      · rw [show findByDeliveryId .testAdapter outbox found = some entry from known] at written
        cases written
        obtain ⟨outcome, outcomeRef, given, reference, holds⟩ := permits.2 settled earlier present
        refine ⟨outcome, outcomeRef, ?_, ?_, holds⟩
        · rw [OutboxPatch.apply, given]
          rfl
        · rw [OutboxPatch.apply, reference]
          rfl
    handedOver := fun found => (inv.handedOver found).advancing permits.1 advanced }
  moves := ⟨fun _ _ _ _ settled => settled, by
    intro found entry known
    rcases advanced.lookup found with same | ⟨rfl, earlier, present, -, written, -⟩
    · exact ⟨entry, same.trans known, rfl⟩
    · rw [show findByDeliveryId .testAdapter before.store.outbox found = some entry from known]
        at present
      cases present
      exact ⟨_, written, rfl⟩⟩

/-- The calls of the workers are no part of the invariant. -/
theorem DeliveryInv.aside (inv : DeliveryInv host before) (after : DeliveryWorld)
    (store : after.store = before.store) (journal : after.journal = before.journal) :
    Leaves host before after where
  inv := {
    distinct := store ▸ inv.distinct
    accountable := store ▸ inv.accountable
    settled := store ▸ inv.settled
    handedOver := by
      intro deliveryId
      obtain ⟨passedOnce, left, passed, submittedOnce⟩ := inv.handedOver deliveryId
      rw [← journal] at passedOnce left passed submittedOnce
      rw [← store] at left
      exact ⟨passedOnce, left, passed, submittedOnce⟩ }
  moves := ⟨by rw [store]; exact fun _ _ _ _ settled => settled,
    by rw [store]; exact fun _ entry known => ⟨entry, known, rfl⟩⟩

variable {tick : AdapterTick}

theorem DeliveryInv.performed (inv : DeliveryInv host before)
    (permits : Permits host pid before request)
    (performed : performDelivery host pid tick request before.store = some (reply, store)) :
    Leaves host before (before.performing pid request reply store) := by
  cases request with
  | advance deliveryId expected data =>
      simp only [performDelivery] at performed
      split at performed
      next value outbox ok =>
        cases performed
        exact inv.advancing permits (advance_advanced ok)
      next =>
        cases performed
        exact inv.reading fun _ => ⟨rfl, rfl⟩
  | governance command =>
      simp only [performDelivery] at performed
      split at performed
      next governance view ok =>
        cases performed
        obtain ⟨accountable, later⟩ := inv.accountable.execute ok
        exact inv.governing (fun _ => ⟨rfl, rfl⟩) accountable later
      next =>
        cases performed
        exact inv.reading fun _ => ⟨rfl, rfl⟩
  | transport request =>
      cases performed
      exact {
        inv := { inv with
          handedOver := fun deliveryId => (inv.handedOver deliveryId).transmitting fun same => by
            subst same
            exact permits }
        moves := ⟨fun _ _ _ _ settled => settled, fun _ entry known => ⟨entry, known, rfl⟩⟩ }
  | _ =>
      cases performed
      exact inv.reading fun _ => ⟨rfl, rfl⟩

/-! ## What a request teaches -/

/-- Commands that governance takes for the same settle with the same outcome. -/
def Covered (host : DeliveryHost) : Prop :=
  ∀ left right, host.runtime.inputHash left = host.runtime.inputHash right →
    settledOutcome left.operation = settledOutcome right.operation

/-- What a worker knows from the answer to a request, when it is answered. -/
def Learns (after : DeliveryWorld) : (request : AdapterRequest) → request.Reply → Prop
  | .findByDeliveryId deliveryId, found => ∀ entry, found = some entry →
      findByDeliveryId .testAdapter after.store.outbox deliveryId = some entry
  | .findReconcilable _, (stale : List DlOutboxEntry) => ∀ entry ∈ stale,
      findByDeliveryId .testAdapter after.store.outbox entry.deliveryId = some entry
  | .advance deliveryId _ _, moved => ∀ entry, moved = some entry →
      findByDeliveryId .testAdapter after.store.outbox deliveryId = some entry
  | .governance command, _ => ∀ input outcome, command.operation = .settle input →
      input.outcome = .terminal outcome →
      SettledWith after.store.governance command.tenantId command.reservationId outcome
        input.outcomeRef
  | _, _ => True

theorem settlesAlone_settles {store after : RuntimeStore} {command : RuntimeCommand}
    {input : Governance.SettleInput} {outcome : TerminalOutcome} {now : Instant}
    {attemptId touchId : String} {view : SettlementView} (covered : Covered host)
    (accountable : Accountable host.runtime store) (alone : settlesAlone store command = true)
    (operation : command.operation = .settle input) (settles : input.outcome = .terminal outcome)
    (ok : Governance.execute host.runtime store command now attemptId touchId = .ok (after, view)) :
    SettledWith after command.tenantId command.reservationId outcome input.outcomeRef := by
  rcases accountable.settles covered operation settles ok with
    ⟨row, mem, named, owned, terminal⟩ | settled
  · have found := Governance.findReservation_of_mem accountable.safe mem
    rw [named, owned] at found
    simp only [settlesAlone, operation, settles, found, Bool.or_eq_true, Bool.and_eq_true,
      beq_iff_eq, Option.isNone_iff_eq_none] at alone
    rcases alone with open_ | ⟨same, reference⟩
    · rw [open_] at terminal
      cases terminal
    · have settled : SettledWith store command.tenantId command.reservationId outcome
          input.outcomeRef := ⟨row, mem, named, owned, same, reference⟩
      exact settled.later accountable.safe (accountable.execute ok).2
  · exact settled

theorem DeliveryInv.learns {value : request.Reply} (covered : Covered host)
    (inv : DeliveryInv host before)
    (allowed : (deliveryDiscipline host).allows before pid tick request)
    (performed : performDelivery host pid tick request before.store = some (.ok value, store)) :
    Learns (before.performing pid request (.ok value) store) request value := by
  cases request with
  | clock => trivial
  | transport request => trivial
  | findByDeliveryId deliveryId =>
      cases performed
      exact fun entry known => known
  | findReconcilable notAfter =>
      cases performed
      intro entry mem
      obtain ⟨present, ours, -⟩ := mem_findReconcilable mem
      exact findByDeliveryId_some.mpr ⟨Table.lookup_of_member inv.distinct present rfl, ours⟩
  | advance deliveryId expected data =>
      simp only [performDelivery] at performed
      split at performed
      next reply outbox ok =>
        cases performed
        rintro entry rfl
        cases advance_advanced ok with
        | moved known awaited => exact findByDeliveryId_written known
      next => cases performed
  | governance command =>
      simp only [performDelivery] at performed
      split at performed
      next governance view ok =>
        cases performed
        intro input outcome operation settles
        exact settlesAlone_settles covered inv.accountable (allowed command rfl) operation settles ok
      next => cases performed

end Requests

/-! ## The programs of the adapter -/

section Programs

variable {host : DeliveryHost} {pid : Nat} {γ : Type} {world : DeliveryWorld}
  {entry : DlOutboxEntry} {correlationId : String}

def Bound (entry : DlOutboxEntry) (world : DeliveryWorld) : Prop :=
  ∃ current, findByDeliveryId .testAdapter world.store.outbox entry.deliveryId = some current ∧
    current.command = entry.command

variable {after : DeliveryWorld}

theorem Bound.moves {before : DeliveryWorld} (bound : Bound entry before)
    (moves : DeliveryMoves before after) : Bound entry after := by
  obtain ⟨current, known, same⟩ := bound
  obtain ⟨later, known', same'⟩ := moves.entries _ current known
  exact ⟨later, known', same'.trans same⟩

theorem bound_of_find
    (known : findByDeliveryId .testAdapter world.store.outbox deliveryId = some entry) :
    Bound entry world := by
  have named : entry.deliveryId = deliveryId := findByDeliveryId_key known
  exact ⟨entry, named ▸ known, rfl⟩

/-- How far a worker has come since a world: it has made one more request, and got an answer. -/
structure Asked (pid : Nat) (world : DeliveryWorld) (request : AdapterRequest)
    (value : request.Reply) (after : DeliveryWorld) : Prop where
  moves : DeliveryMoves world after
  mine : after.mine pid = world.mine pid ++ [⟨pid, request, .ok value⟩]
  learns : Learns after request value

/-- The rule for a request that is permitted whatever the others do in the meantime. -/
theorem ensures_ask (covered : Covered host)
    {next : request.Reply → AdapterProgram γ} {post : γ → DeliveryWorld → Prop}
    (permits : ∀ now, DeliveryMoves world now → now.mine pid = world.mine pid →
      Permits host pid now request)
    (rest : ∀ value after, Asked pid world request value after →
      (deliveryDiscipline host).Ensures pid post (next value) after) :
    (deliveryDiscipline host).Ensures pid post (ask request >>= next) world := by
  refine sound_bind.mpr fun now keeps inv tick reply store allowed performed => ?_
  have leaves := inv.performed (permits now keeps.relied keeps.mine) performed
  refine ⟨⟨leaves.inv, fun _ _ => leaves.moves⟩, ?_⟩
  cases reply with
  | error failure => exact nofun
  | ok value =>
      refine rest value _ ⟨keeps.relied.trans leaves.moves, ?_, inv.learns covered allowed performed⟩
      rw [mine_performing, keeps.mine]

/-- Nothing is asked of what the program returns. -/
def Safe (host : DeliveryHost) (pid : Nat) (program : AdapterProgram γ) (world : DeliveryWorld) :
    Prop :=
  (deliveryDiscipline host).Ensures pid (fun _ _ => True) program world

theorem requireEntry_ensures (covered : Covered host) : (deliveryDiscipline host).Ensures pid
      (fun entry => Asked pid world (.findByDeliveryId deliveryId) (some entry))
      (requireEntry deliveryId) world := by
  refine ensures_ask covered (fun _ _ _ => trivial) fun found after asked => ?_
  cases found with
  | none => exact ensures_throw
  | some entry => exact ensures_pure asked

theorem advanced_safe (covered : Covered host)
    {moved : Option DlOutboxEntry} : Safe host pid (advanced deliveryId moved) world := by
  cases moved with
  | none => exact (requireEntry_ensures covered).mono fun _ _ _ => trivial
  | some entry => exact ensures_pure trivial

theorem settle_safe (covered : Covered host) {outcome : TerminalOutcome} {outcomeRef : String}
    {occurredAt : Option Instant} (bound : Bound entry world) :
    Safe host pid (settle host entry correlationId outcome outcomeRef occurredAt) world := by
  refine ensures_ask covered (fun _ _ _ => trivial) fun view governed asked => ?_
  have settled := asked.learns _ outcome rfl rfl
  refine ensures_ask covered (fun _ _ _ => trivial) fun settledAt timed clocked => ?_
  refine ensures_ask covered ?_ fun moved _ _ => advanced_safe covered
  intro now moves _
  refine ⟨nofun, fun _ current known => ⟨outcome, outcomeRef, rfl, rfl, ?_⟩⟩
  obtain ⟨bound', known', same⟩ := bound.moves (asked.moves.trans (clocked.moves.trans moves))
  rw [known] at known'
  cases known'
  rw [DlOutboxEntry.reservationId, same]
  exact moves.settled _ _ _ _ (clocked.moves.settled _ _ _ _ settled)

theorem markReconciling_safe (covered : Covered host) :
    Safe host pid (markReconciling host entry correlationId) world := by
  refine ensures_ask covered (fun _ _ _ => trivial) fun view governed asked => ?_
  refine ensures_ask covered ?_ fun moved _ _ => advanced_safe covered
  exact fun _ _ _ => ⟨nofun, nofun⟩

theorem respond_safe (covered : Covered host) {response : TransportResponse}
    (bound : Bound entry world) :
    Safe host pid (respond host entry correlationId response) world := by
  cases response with
  | accepted =>
      refine ensures_ask covered (fun _ _ _ => trivial) fun view _ _ => ?_
      refine ensures_ask covered ?_ fun accepted _ _ => ensures_pure trivial
      exact fun _ _ _ => ⟨nofun, nofun⟩
  | rejected reasonCode =>
      refine ensures_ask covered (fun _ _ _ => trivial) fun occurredAt after asked => ?_
      refine (settle_safe covered (bound.moves asked.moves)).bind fun settled _ _ => ?_
      exact ensures_pure trivial
  | timeout =>
      refine (markReconciling_safe covered).bind fun reconciling _ _ => ?_
      exact ensures_pure trivial

/-- The worker has handed nothing over. -/
def Unsent (pid : Nat) (world : DeliveryWorld) : Prop :=
  ∀ deliveryId, ∀ step ∈ world.mine pid, transmits deliveryId step = false

theorem Unsent.asked {value : request.Reply} (unsent : Unsent pid world)
    (asked : Asked pid world request value after)
    (silent : ∀ deliveryId, transmits deliveryId ⟨pid, request, .ok value⟩ = false) :
    Unsent pid after := by
  intro deliveryId step mem
  rw [asked.mine] at mem
  rcases mem_snoc.mp mem with old | rfl
  · exact unsent deliveryId step old
  · exact silent deliveryId

theorem pass_safe (covered : Covered host) (unsent : Unsent pid world) :
    Safe host pid (pass host entry correlationId) world := by
  refine ensures_ask covered (fun _ _ _ => trivial) fun submittedAt timed clocked => ?_
  refine ensures_ask covered (fun _ _ _ => ⟨nofun, nofun⟩) fun moved passed asked => ?_
  have silent := (unsent.asked clocked fun _ => rfl).asked asked fun _ => rfl
  cases moved with
  | none =>
      refine (requireEntry_ensures covered).bind fun current _ _ => ?_
      exact ensures_pure trivial
  | some submitting =>
      have known := asked.learns submitting rfl
      refine ensures_ask covered ?_ fun response sent transmitted => ?_
      · -- this worker has moved the entry on, and has handed nothing over
        intro now moves mine
        have named : submitting.deliveryId = entry.deliveryId := findByDeliveryId_key known
        rw [Permits, mine, asked.mine]
        refine ⟨⟨_, mem_append_right _ (mem_singleton.mpr rfl), ?_⟩, ?_⟩
        · simp [passes, named]
        · rw [← asked.mine]
          exact silent _
      · exact respond_safe covered ((bound_of_find known).moves transmitted.moves)

theorem barrier_safe (covered : Covered host) {reply : Except DeliveryError SettlementView}
    (unsent : Unsent pid world) : Safe host pid (barrier host entry correlationId reply) world := by
  unfold barrier
  split
  next => exact pass_safe covered unsent
  next error =>
    split
    next => exact ensures_throw
    next code _ =>
      split
      next =>
        refine (markReconciling_safe covered).bind fun reconciling _ _ => ?_
        exact ensures_pure trivial
      next => exact ensures_pure trivial
  next => exact ensures_throw

/-- The barrier goes on whatever governance answers. -/
theorem tryGovern_safe {command : Governance.RuntimeCommand}
    {next : Except DeliveryError SettlementView → AdapterProgram γ} (unsent : Unsent pid world)
    (rest : ∀ reply after, Unsent pid after → Safe host pid (next reply) after) :
    Safe host pid (tryGovern command >>= next) world := by
  refine sound_bind.mpr fun now keeps inv tick reply store allowed performed => ?_
  have leaves : Leaves host now (now.performing pid (.governance command) reply store) :=
    inv.performed trivial performed
  refine ⟨⟨leaves.inv, fun _ _ => leaves.moves⟩, rest reply _ ?_⟩
  intro deliveryId step mem
  rw [mine_performing, keeps.mine] at mem
  rcases mem_snoc.mp mem with old | rfl
  · exact unsent deliveryId step old
  · rfl

theorem submit_safe (covered : Covered host) {work : DeliveryWorkItem} (unsent : Unsent pid world) :
    Safe host pid (submit host work) world := by
  refine (requireEntry_ensures covered).bind fun entry after asked => ?_
  have silent := unsent.asked asked fun _ => rfl
  split
  next => exact ensures_pure trivial
  next => exact ensures_pure trivial
  next => exact ensures_pure trivial
  next => exact ensures_pure trivial
  next => exact tryGovern_safe silent fun reply _ later => barrier_safe covered later

theorem recordOutcome_safe (covered : Covered host) {input : RecordOutcomeInput} :
    Safe host pid (recordOutcome host input) world := by
  refine (requireEntry_ensures covered).bind fun entry after asked => ?_
  split
  next => exact ensures_pure trivial
  next => exact ensures_throw
  refine (settle_safe covered (bound_of_find (asked.learns entry rfl))).bind fun settled _ _ => ?_
  exact ensures_pure trivial

theorem reconcileExpired_safe (covered : Covered host) :
    Safe host pid (reconcileExpired host correlationId) world := by
  refine ensures_ask covered (fun _ _ _ => trivial) fun now _ _ => ?_
  refine ensures_ask covered (fun _ _ _ => trivial) fun stale _ _ => ?_
  refine ensures_forEach trivial fun entry _ world _ => ?_
  refine (markReconciling_safe covered).bind fun reconciling _ _ => ?_
  exact ensures_pure trivial

theorem programOf_safe (covered : Covered host) (call : DeliveryCall) (unsent : Unsent pid world) :
    Safe host pid (programOf host call) world := by
  cases call with
  | submit work =>
      exact (submit_safe covered unsent).bind fun _ _ _ => ensures_pure trivial
  | recordOutcome input =>
      exact (recordOutcome_safe covered).bind fun _ _ _ => ensures_pure trivial
  | reconcileExpired correlationId =>
      exact (reconcileExpired_safe covered).bind fun _ _ _ => ensures_pure trivial

end Programs

/-! ## Every run -/

section Runs

variable {host : DeliveryHost} {world : DeliveryWorld}

theorem deliveryInv_of_fresh (fresh : store.Fresh host) :
    DeliveryInv host (idle store : Workers _ _ _ _ _ DeliveryAnswer).world := by
  obtain ⟨empty, initial, unanswered⟩ := fresh
  refine ⟨?_, Governance.accountable_of_init initial unanswered, ?_, ?_⟩
  · simp [Distinct, idle, empty]
  · intro deliveryId entry known
    simp [findByDeliveryId, idle, empty, Table.lookup] at known
  · intro deliveryId
    constructor <;> simp [idle]

/-- A new entry is queued under a delivery that nobody has seen. -/
theorem DeliveryInv.enqueuing {entry : DlOutboxEntry} (inv : DeliveryInv host world)
    (fresh : freshEntry world.store.outbox entry = true) :
    Leaves host world
      { world with store := { world.store with outbox := world.store.outbox ++ [entry] } } := by
  simp only [freshEntry, Bool.and_eq_true, Bool.not_eq_true', any_eq_false,
    Bool.or_eq_true, beq_iff_eq, not_or] at fresh
  obtain ⟨⟨⟨queued, -⟩, -⟩, unseen⟩ := fresh
  have keeps : ∀ deliveryId known,
      findByDeliveryId .testAdapter world.store.outbox deliveryId = some known →
      findByDeliveryId .testAdapter (world.store.outbox ++ [entry]) deliveryId = some known := by
    intro deliveryId known present
    rw [findByDeliveryId_some] at present ⊢
    rw [Table.lookup, find?_append, show world.store.outbox.find? _ = some known from present.1]
    exact ⟨rfl, present.2⟩
  exact {
    inv := {
      distinct := by
        refine Table.nodup_append inv.distinct fun known => ?_
        obtain ⟨other, mem, same⟩ := mem_map.mp known
        exact (unseen other mem).1.1 same
      accountable := inv.accountable
      settled := by
        intro deliveryId known present settled
        rcases findByDeliveryId_append present with old | rfl
        · exact inv.settled deliveryId known old settled
        · rw [queued] at settled
          cases settled
      handedOver := by
        intro deliveryId
        have handed := inv.handedOver deliveryId
        refine ⟨handed.passedOnce, ?_, handed.passed, handed.submittedOnce⟩
        intro step mem passed
        obtain ⟨known, present, left⟩ := handed.left step mem passed
        exact ⟨known, keeps deliveryId known present, left⟩ }
    moves := ⟨fun _ _ _ _ settled => settled,
      fun deliveryId known present => ⟨known, keeps deliveryId known present, rfl⟩⟩ }

/-- A world in which others have gone on with their entries and their reservations. -/
theorem DeliveryInv.elsewhere {label : DeliveryElsewhere} (inv : DeliveryInv host world)
    (moved : DeliveryStore.elsewhere host label world.store = some store) :
    Leaves host world { world with store := store } := by
  cases label with
  | runtime step =>
      cases moved
      have later : StoreLater world.store.governance (world.store.governance.next host.runtime step) :=
        StoreLater.next inv.accountable.safe step
      exact {
        inv := {
          distinct := inv.distinct
          accountable := inv.accountable.next step
          settled := by
            intro deliveryId entry known settled
            obtain ⟨outcome, outcomeRef, given, reference, holds⟩ :=
              inv.settled deliveryId entry known settled
            exact ⟨outcome, outcomeRef, given, reference, holds.later inv.accountable.safe later⟩
          handedOver := fun deliveryId =>
            let handed := inv.handedOver deliveryId
            ⟨handed.passedOnce, handed.left, handed.passed, handed.submittedOnce⟩ }
        moves := ⟨fun _ _ _ _ settled => settled.later inv.accountable.safe later,
          fun _ entry known => ⟨entry, known, rfl⟩⟩ }
  | enqueued entry =>
      simp only [DeliveryStore.elsewhere] at moved
      split at moved
      next fresh =>
        cases moved
        exact inv.enqueuing fresh
      next => cases moved

theorem governs (covered : Covered host) :
    (deliveryDiscipline host).Governs (DeliveryStore.Fresh host)
      fun workers step => unrivalled workers step = true where
  initially _ fresh := deliveryInv_of_fresh fresh
  starts workers call supervised _ := by
    have leaves := supervised.inv.aside (workers.world.starting call) rfl rfl
    refine ⟨⟨leaves.inv, fun _ _ => leaves.moves⟩, ?_⟩
    refine Discipline.Sound.mono (programOf_safe covered call ?_) fun result world _ now _ inv => ?_
    · intro deliveryId step mem
      have unheard := supervised.unheard
      rw [show (workers.world.starting call).mine workers.world.started = [] from unheard] at mem
      cases mem
    · have leaves := inv.aside (now.ending workers.world.started (.ended call result)) rfl rfl
      exact ⟨leaves.inv, fun _ _ => leaves.moves⟩
  allowed workers pid tick request _ asked guarded := by
    rintro command rfl
    simpa only [unrivalled, asked] using guarded
  crashes workers pid call supervised _ _ := by
    have leaves := supervised.inv.aside (workers.world.ending pid (.crashed call)) rfl rfl
    exact ⟨leaves.inv, fun _ _ => leaves.moves⟩
  elsewhere workers label store supervised _ moved := by
    have leaves := supervised.inv.elsewhere moved
    exact ⟨leaves.inv, fun _ => leaves.moves⟩

/-- In every run that settles no reservation against its outcome, the outbox agrees with
governance. -/
theorem outbox_agrees_with_governance (host : DeliveryHost) (covered : Covered host)
    {workers : Workers DeliveryStore AdapterRequest AdapterRequest.Reply DeliveryCall DeliveryError
      DeliveryAnswer}
    (reachable : ((deliveries host).restrict fun workers step =>
      unrivalled workers step = true).Reachable workers) :
    OutboxAgrees host workers.world := by
  have inv := ((governs covered).supervised reachable).inv
  refine ⟨fun deliveryId => (inv.handedOver deliveryId).submittedOnce, ?_⟩
  intro deliveryId entry known settled
  obtain ⟨outcome, outcomeRef, given, reference, holds⟩ := inv.settled deliveryId entry known settled
  obtain ⟨row, found, terminal, terminalRef⟩ := holds.found inv.accountable.safe
  exact ⟨row, found, terminal.trans given.symm, terminalRef.trans reference.symm⟩

end Runs

/-! ## Two reports of one delivery -/

/-- A letter for what a command settles with. -/
def outcomeLetter : Option DeliveryOutcome → Char
  | none => '-'
  | some .unknownReconciling => 'U'
  | some (.terminal .providerRejected) => 'R'
  | some (.terminal .providerAccepted) => 'A'
  | some (.terminal .delivered) => 'D'
  | some (.terminal .deliveryFailed) => 'F'

def outcomeOf (letter : Char) : Option DeliveryOutcome :=
  if letter = 'U' then some .unknownReconciling
  else if letter = 'R' then some (.terminal .providerRejected)
  else if letter = 'A' then some (.terminal .providerAccepted)
  else if letter = 'D' then some (.terminal .delivered)
  else if letter = 'F' then some (.terminal .deliveryFailed)
  else none

theorem outcomeOf_letter (outcome : Option DeliveryOutcome) :
    outcomeOf (outcomeLetter outcome) = outcome := by
  rcases outcome with _ | _ | outcome
  · rfl
  · rfl
  · cases outcome <;> rfl

def outcomeHash (command : RuntimeCommand) : String :=
  String.ofList (outcomeLetter (settledOutcome command.operation) ::
    command.idempotencyKey.toList)

def reportHost : DeliveryHost where
  tenantId := "tenant"
  runtime := { Governance.lineOptions with inputHash := outcomeHash }
  sha256 := id

theorem reportHost_covered : Covered reportHost := by
  intro left right same
  have letters := (List.cons.inj (String.ofList_injective same)).1
  rw [← outcomeOf_letter (settledOutcome left.operation), letters, outcomeOf_letter]

/-- The delivery that was claimed for the message, as it is queued. -/
def reportedEntry : DlOutboxEntry where
  id := "entry"
  command :=
    { tenantId := "tenant"
      source := "JOURNEY"
      actionKey := "action"
      reservationId := "reservation"
      channel := .line
      contactId := "contact"
      identityId := none
      contentRef := "content"
      correlationId := "correlation"
      causationId := none
      purpose := "MARKETING"
      senderIdentityId := "line-oa"
      leaseExpiresAt := 50 }
  deliveryId := "delivery"
  providerRequestKey := "request"
  adapter := .testAdapter
  inputHash := "input"
  leaseVersion := 1
  state := .queued
  submittedAt := none
  settledAt := none
  outcome := none
  outcomeRef := none

def reportStore : DeliveryStore := ⟨[], Governance.lineStore⟩

theorem reportStore_fresh : reportStore.Fresh reportHost := by
  refine ⟨rfl, ⟨by decide, ?_⟩, rfl⟩
  intro row mem
  rw [mem_singleton.mp mem]
  exact ⟨rfl, rfl, rfl, rfl, rfl, rfl, rfl⟩

def reportTick : AdapterTick := ⟨10, "attempt", "touch", .accepted⟩

def requests (pid count : Nat) : List (WorkerStep AdapterTick DeliveryCall DeliveryElsewhere) :=
  List.replicate count (.perform pid reportTick)

def report (outcome : TerminalOutcome) (outcomeRef : String) : DeliveryCall :=
  .recordOutcome ⟨⟨"delivery", "correlation"⟩, outcome, outcomeRef, some 20⟩

/-- The message is claimed, queued and handed over, and a first worker looks at the report that it
was delivered. -/
def deliveredFirst : List (WorkerStep AdapterTick DeliveryCall DeliveryElsewhere) :=
  [.elsewhere (.runtime (Governance.lineStep Governance.lineClaim)),
    .elsewhere (.enqueued reportedEntry), .start (.submit ⟨"delivery", "correlation"⟩)] ++
    requests 0 7 ++ [.start (report .delivered "delivered")] ++ requests 1 2

abbrev DeliveryWorkers := Workers DeliveryStore AdapterRequest AdapterRequest.Reply DeliveryCall
  DeliveryError DeliveryAnswer

def settledEntry (workers : DeliveryWorkers) : Option DlOutboxEntry :=
  (findByDeliveryId .testAdapter workers.world.store.outbox "delivery").filter fun entry =>
    entry.state = .settled

theorem outbox_agrees_for_sample :
    ∃ workers : DeliveryWorkers, OutboxAgrees reportHost workers.world ∧
      (settledEntry workers).map DlOutboxEntry.outcome = some (some .delivered) := by
  have ends : System.endsWith
      (System.guardNext unrivalled (next (deliveryMachine reportHost)))
      (idle reportStore) (deliveredFirst ++ requests 1 1) (.perform 1 reportTick)
      (fun _ after => (settledEntry after).map DlOutboxEntry.outcome = some (some .delivered)) =
        true := by
    decide +kernel
  obtain ⟨before, workers, reachable, last, settled⟩ :=
    endsWithGuarded reportStore_fresh ends
  exact ⟨workers, outbox_agrees_with_governance reportHost reportHost_covered (reachable.step last),
    of_decide_eq_true settled⟩

/-- Governance has settled the delivery as delivered when a second worker reports that it failed.
Governance answers with the reservation as it is, and the second worker is the first to write its
outcome to the outbox. -/
theorem late_report_wins_the_outbox :
    ¬ ∀ host workers, Covered host → (deliveries host).Reachable workers →
      OutboxAgrees host workers.world := by
  intro agree
  have ends : System.endsWith (next (deliveryMachine reportHost))
      (idle reportStore)
      (deliveredFirst ++ [.start (report .deliveryFailed "failed")] ++ requests 2 3)
      (.perform 2 reportTick)
      (fun _ after =>
        (settledEntry after).map DlOutboxEntry.outcome = some (some .deliveryFailed) &&
        (findReservation after.world.store.governance "tenant" "reservation").map
          Governance.ReservationRow.terminalOutcome = some (some .delivered) &&
        (settledEntry after).map DlOutboxEntry.reservationId = some "reservation") = true := by
    decide +kernel
  obtain ⟨before, workers, reachable, last, test⟩ :=
    endsWith reportStore_fresh ends
  simp only [Bool.and_eq_true, decide_eq_true_eq] at test
  obtain ⟨⟨failed, delivered⟩, reserved⟩ := test
  obtain ⟨entry, found, outcome⟩ := Option.map_eq_some_iff.mp failed
  rw [found, Option.map_some, Option.some.injEq] at reserved
  obtain ⟨known, settled⟩ := Option.filter_eq_some_iff.mp found
  obtain ⟨row, present, same, -⟩ := (agree reportHost workers reportHost_covered
    (reachable.step last)).outcome "delivery" entry known (of_decide_eq_true settled)
  rw [reserved, show reportHost.tenantId = "tenant" from rfl] at present
  rw [present, Option.map_some, Option.some.injEq, same, outcome] at delivered
  cases delivered

end DContact.Delivery

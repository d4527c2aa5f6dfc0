import DContact.Delivery.LineControlStore
import DContact.Lib.Sessions

/-!
# Reservations under the lock of their gate

A reservation locks the row of its gate, looks for the reservation that was made before, counts one
limit after another, and inserts. Settlements take no lock and come between any two of these
statements. Killing a gate and clearing it wait for the lock.
-/

namespace DContact.Delivery

open Lib
open Governance (Instant)

structure CapHost where
  deliveryCaps : String → Option LineDeliveryCaps
  runCapProviderAttempts : String → Option Nat

/-- A reservation, as the control plane asks for it. -/
structure ReserveRequest where
  id : String
  gateId : String
  runAuthorizationId : String
  deliveryId : String
  capKind : LineCapKind
  attemptNo : Option Nat
  recipientFingerprint : String
  now : Instant

/-- `reserve`: the limits are those of the kind, at the time of the reservation. -/
def CapHost.input (host : CapHost) (request : ReserveRequest) : ReserveLineCapInput where
  id := request.id
  gateId := request.gateId
  runAuthorizationId := request.runAuthorizationId
  deliveryId := request.deliveryId
  capKind := request.capKind
  attemptNo := request.attemptNo
  recipientFingerprint := request.recipientFingerprint
  reservedAt := request.now
  limits := lineCapLimits
    { capKind := request.capKind
      now := request.now
      runCapProviderAttempts := host.runCapProviderAttempts request.deliveryId
      deliveryCaps := host.deliveryCaps request.gateId }

/-- How far a reservation has come: it holds the lock, or has limits left to count. -/
inductive CapWork where
  | locked (request : ReserveRequest) (killed : Bool)
  | counting (request : ReserveRequest) (remaining : List LineCapLimit)

def CapWork.request : CapWork → ReserveRequest
  | .locked request _ => request
  | .counting request _ => request

def CapWork.lock (work : CapWork) : Option String := some work.request.gateId

abbrev CapAnswer := Except LineCapError ReserveLineCapResult

structure CapWorld where
  gates : List GateLatch
  ledger : List DlLineCapLedgerEntry
  sessions : List (Session CapWork)
  answered : List (ReserveRequest × CapAnswer)

inductive CapStep where
  | lock (pid : Nat) (request : ReserveRequest)
  | look (pid : Nat)
  | count (pid : Nat)
  | insert (pid : Nat)
  | abort (pid : Nat)
  | settle (deliveryId : String) (capKind : LineCapKind) (attemptNo : Nat)
      (settlement : LineCapSettlement) (now : Instant)
  | ensure (gateId : String)
  | latch (gateId : String) (killed : Bool)

namespace CapWorld

def gate (world : CapWorld) (gateId : String) : Option GateLatch :=
  Table.lookup GateLatch.id gateId world.gates

def held (world : CapWorld) (gateId : String) : Bool :=
  world.sessions.any fun session => session.work.lock = some gateId

def goOn (world : CapWorld) (pid : Nat) (work : CapWork) : CapWorld :=
  { world with sessions := Session.replace world.sessions pid work }

/-- The transaction ends with an answer and releases its lock. -/
def finish (world : CapWorld) (pid : Nat) (request : ReserveRequest) (answer : CapAnswer)
    (ledger : List DlLineCapLedgerEntry) : CapWorld :=
  { world with
    ledger := ledger
    sessions := Session.drop world.sessions pid
    answered := world.answered ++ [(request, answer)] }

def next (host : CapHost) (world : CapWorld) : CapStep → Option CapWorld
  | .lock pid request =>
      if (Session.find world.sessions pid).isSome || world.held request.gateId then none
      else
        match world.gate request.gateId with
        | none => some (world.finish pid request (.error .bindingRejected) world.ledger)
        | some gate => some (world.goOn pid (.locked request gate.killed))
  | .look pid =>
      match Session.find world.sessions pid with
      | some (.locked request killed) =>
          match findReserved world.ledger (host.input request) with
          | some existing =>
              some (world.finish pid request (replayed (host.input request) existing) world.ledger)
          | none =>
              if killed then
                some (world.finish pid request (.ok (.denied .lineGateKilled)) world.ledger)
              else some (world.goOn pid (.counting request (host.input request).limits))
      | _ => none
  | .count pid =>
      match Session.find world.sessions pid with
      | some (.counting request (limit :: remaining)) =>
          if limit.max ≤ limit.used (host.input request) world.ledger then
            some (world.finish pid request (.ok (.denied limit.code)) world.ledger)
          else some (world.goOn pid (.counting request remaining))
      | _ => none
  | .insert pid =>
      match Session.find world.sessions pid with
      | some (.counting request []) =>
          match insertReserved world.ledger (host.input request) with
          | .ok ledger =>
              some (world.finish pid request
                (.ok (.reserved (host.input request).entry false)) ledger)
          | .error error => some (world.finish pid request (.error error) world.ledger)
      | _ => none
  | .abort pid =>
      if (Session.find world.sessions pid).isSome then
        some { world with sessions := Session.drop world.sessions pid }
      else none
  | .settle deliveryId capKind attemptNo settlement now =>
      match settleCap world.ledger deliveryId capKind attemptNo settlement now with
      | .ok (_, ledger) => some { world with ledger := ledger }
      | .error _ => some world
  | .ensure gateId =>
      if (world.gate gateId).isSome then some world
      else some { world with gates := world.gates ++ [⟨gateId, false⟩] }
  | .latch gateId killed =>
      if world.held gateId then none
      else some { world with
        gates := Table.update GateLatch.id gateId (GateLatch.latch killed) world.gates }

end CapWorld

/-- Nothing was reserved yet. -/
def CapWorld.Fresh (world : CapWorld) : Prop :=
  world.ledger = [] ∧ world.sessions = [] ∧ world.answered = []

def capTransactions (host : CapHost) : System CapWorld CapStep :=
  System.ofNext CapWorld.Fresh (CapWorld.next host)

/-- What is still true of what a session has read. -/
def Informed (host : CapHost) (world : CapWorld) : CapWork → Prop
  | .locked request killed => (world.gate request.gateId).map GateLatch.killed = some killed
  | .counting request remaining =>
      (world.gate request.gateId).map GateLatch.killed = some false ∧
        ∀ limit ∈ (host.input request).limits, limit ∈ remaining ∨
          limit.used (host.input request) world.ledger < limit.max

structure CapInv (host : CapHost) (world : CapWorld) : Prop where
  exclusive : Session.Exclusive CapWork.lock world.sessions
  informed : ∀ session ∈ world.sessions, Informed host world session.work

variable {work : CapWork} {ledger : List DlLineCapLedgerEntry}

section Steps

variable {host : CapHost} {world : CapWorld} {pid : Nat}

theorem held_eq_false {gateId : String} :
    world.held gateId = false ↔ ∀ session ∈ world.sessions, session.work.request.gateId ≠ gateId := by
  simp [CapWorld.held, CapWork.lock]

variable {after : CapWorld}

/-- What a session knows depends on its gate and on what its limits count. -/
theorem Informed.later (informed : Informed host world work)
    (gate : after.gate work.request.gateId = world.gate work.request.gateId)
    (used : ∀ limit : LineCapLimit, limit.used (host.input work.request) after.ledger ≤
      limit.used (host.input work.request) world.ledger) : Informed host after work := by
  cases work with
  | locked request killed =>
      rw [Informed, show after.gate request.gateId = _ from gate]
      exact informed
  | counting request remaining =>
      refine ⟨(congrArg _ gate).trans informed.1, fun limit mem => ?_⟩
      exact (informed.2 limit mem).imp_right fun room => Nat.lt_of_le_of_lt (used limit) room

theorem Informed.known (informed : Informed host world work) :
    ∃ gate, world.gate work.request.gateId = some gate := by
  cases work with
  | locked request killed =>
      obtain ⟨gate, found, -⟩ := Option.map_eq_some_iff.mp informed
      exact ⟨gate, found⟩
  | counting request remaining =>
      obtain ⟨gate, found, -⟩ := Option.map_eq_some_iff.mp informed.1
      exact ⟨gate, found⟩

/-- A session goes on with its lock, or takes one that is free. -/
theorem CapInv.goOn (inv : CapInv host world)
    (free : ∀ session ∈ world.sessions, session.pid ≠ pid →
      session.work.request.gateId ≠ work.request.gateId)
    (informed : Informed host world work) : CapInv host (world.goOn pid work) where
  exclusive := by
    refine inv.exclusive.replace fun key taken session mem other held => ?_
    cases taken
    exact free session mem other (Option.some.inj held)
  informed := Session.forall_replace inv.informed informed

theorem CapInv.alone (inv : CapInv host world) (present : ⟨pid, work⟩ ∈ world.sessions) :
    ∀ session ∈ world.sessions, session.pid ≠ pid →
      session.work.request.gateId ≠ work.request.gateId := by
  intro session mem other same
  have apart := inv.exclusive session mem ⟨pid, work⟩ present other _ rfl
  exact apart (congrArg some same.symm)

theorem CapInv.finish (inv : CapInv host world) {request : ReserveRequest} {answer : CapAnswer}
    (used : ∀ session ∈ world.sessions, session.pid ≠ pid → ∀ limit : LineCapLimit,
      limit.used (host.input session.work.request) ledger ≤
        limit.used (host.input session.work.request) world.ledger) :
    CapInv host (world.finish pid request answer ledger) where
  exclusive := inv.exclusive.drop pid
  informed := by
    intro session mem
    obtain ⟨present, other⟩ := Session.mem_drop.mp mem
    exact (inv.informed session present).later rfl (used session present other)

/-- A row of another gate is nothing to a limit. -/
theorem used_append_of_ne {limit : LineCapLimit} {input : ReserveLineCapInput}
    {entry : DlLineCapLedgerEntry}
    (other : entry.gateId ≠ input.gateId) :
    limit.used input (ledger ++ [entry]) = limit.used input ledger := by
  simp [LineCapLimit.used, LineCapLimit.counts, other]

theorem countP_fades_le {counts : DlLineCapLedgerEntry → Bool}
    {rewrite : DlLineCapLedgerEntry → DlLineCapLedgerEntry}
    (fades : ∀ entry, Fades entry (rewrite entry))
    (closed : ∀ before after, Fades before after → counts after = true → counts before = true) :
    (ledger.map rewrite).countP counts ≤ ledger.countP counts := by
  rw [List.countP_map]
  exact List.countP_mono_left fun entry _ counted => closed entry _ (fades entry) counted

theorem CapInv.next {step : CapStep} (inv : CapInv host world)
    (taken : world.next host step = some after) : CapInv host after := by
  cases step with
  | lock pid request =>
      simp only [CapWorld.next] at taken
      split at taken
      next => cases taken
      next free =>
        simp only [Bool.or_eq_true, not_or, Bool.not_eq_true] at free
        split at taken
        next =>
          cases taken
          exact inv.finish fun _ _ _ _ => Nat.le_refl _
        next gate found =>
          cases taken
          refine inv.goOn (fun session mem _ => held_eq_false.mp free.2 session mem) ?_
          simp [Informed, found]
  | look pid =>
      simp only [CapWorld.next] at taken
      split at taken
      next request killed found =>
        split at taken
        next existing _ =>
          cases taken
          exact inv.finish fun _ _ _ _ => Nat.le_refl _
        next =>
          have present := Session.find_mem found
          have known := inv.informed _ present
          split at taken
          next =>
            cases taken
            exact inv.finish fun _ _ _ _ => Nat.le_refl _
          next open_ =>
            cases taken
            rw [Bool.not_eq_true] at open_
            subst open_
            exact inv.goOn (fun session mem other => inv.alone present session mem other)
              ⟨known, fun limit mem => .inl mem⟩
      next => cases taken
  | count pid =>
      simp only [CapWorld.next] at taken
      split at taken
      next request limit remaining found =>
        have present := Session.find_mem found
        obtain ⟨open_, passed⟩ := inv.informed _ present
        split at taken
        next =>
          cases taken
          exact inv.finish fun _ _ _ _ => Nat.le_refl _
        next room =>
          cases taken
          refine inv.goOn (fun session mem other => inv.alone present session mem other)
            ⟨open_, fun other mem => ?_⟩
          rcases passed other mem with left | under
          · rcases List.mem_cons.mp left with rfl | later
            · exact .inr (Nat.lt_of_not_le room)
            · exact .inl later
          · exact .inr under
      next => cases taken
  | insert pid =>
      simp only [CapWorld.next] at taken
      split at taken
      next request found =>
        have present := Session.find_mem found
        split at taken
        next ledger ok =>
          cases taken
          refine inv.finish fun session mem other limit => ?_
          rw [insertReserved_ok ok, used_append_of_ne]
          exact (inv.alone present session mem other).symm
        next =>
          cases taken
          exact inv.finish fun _ _ _ _ => Nat.le_refl _
      next => cases taken
  | abort pid =>
      simp only [CapWorld.next] at taken
      split at taken
      next =>
        cases taken
        refine ⟨inv.exclusive.drop pid, fun session mem => ?_⟩
        exact (inv.informed session (Session.mem_drop.mp mem).1).later rfl
          fun _ => Nat.le_refl _
      next => cases taken
  | settle deliveryId capKind attemptNo settlement now =>
      simp only [CapWorld.next] at taken
      split at taken
      next settled ledger ok =>
        cases taken
        refine ⟨inv.exclusive, fun session mem => ?_⟩
        refine (inv.informed session mem).later rfl fun limit => ?_
        obtain ⟨rewrite, fades, rfl⟩ := settleCap_ok ok
        exact countP_fades_le (fun entry => (fades entry).1) fun _ _ faded => limit.counts_fades faded
      next =>
        cases taken
        exact inv
  | ensure gateId =>
      simp only [CapWorld.next] at taken
      split at taken
      next =>
        cases taken
        exact inv
      next unknown =>
        cases taken
        refine ⟨inv.exclusive, fun session mem => ?_⟩
        have informed := inv.informed session mem
        refine informed.later ?_ fun _ => Nat.le_refl _
        obtain ⟨gate, found⟩ := informed.known
        rw [found, CapWorld.gate, Table.lookup, List.find?_append,
          show world.gates.find? _ = some gate from found, Option.some_or]
  | latch gateId killed =>
      simp only [CapWorld.next] at taken
      split at taken
      next => cases taken
      next free =>
        cases taken
        refine ⟨inv.exclusive, fun session mem => ?_⟩
        refine (inv.informed session mem).later ?_ fun _ => Nat.le_refl _
        rw [Bool.not_eq_true] at free
        have other := held_eq_false.mp free session mem
        obtain ⟨gate, found⟩ := (inv.informed session mem).known
        have named : gate.id = session.work.request.gateId := Table.lookup_key found
        rw [found, CapWorld.gate, Table.lookup_update (GateLatch.latch_id killed),
          show Table.lookup GateLatch.id _ world.gates = some gate from found, Option.map_some,
          if_neg (named ▸ other)]

theorem capInv_of_idle (idle : world.sessions = []) : CapInv host world :=
  ⟨by simp [Session.Exclusive, idle], by simp [idle]⟩

theorem capInv_of_reachable (reachable : (capTransactions host).Reachable world) :
    CapInv host world := by
  refine reachable.invariant ?_ ?_
  · exact fun world initial => capInv_of_idle initial.2.1
  · exact fun _ _ _ inv taken => inv.next taken

end Steps

end DContact.Delivery

import DContact.Customer360.MembershipRelayTurns

/-!
# Runs of the membership relay

Any number of workers, with sends that fail, back-offs, crashes, transactions that are rolled back
under a running call, and changes that are committed meanwhile. The relay keeps the order of every
stream and sends one envelope for a row. It does not keep a row from waiting for ever behind an
older row of another stream.
-/

namespace DContact.Customer360

open Lib List SegmentMembershipOutbox Session
open Governance (Instant)
open RelayWorld

/-- What the relay guarantees in every run. -/
structure KeepsStreamOrder (system : System RelayWorld RelayStep) : Prop where
  /-- When a row is sent, each earlier revision of its stream has been acknowledged by the broker
  and marked published, or quarantined. -/
  ordered : ∀ world, system.Reachable world → ∀ before after worker record envelope,
    world.journal = before ++ .sent worker record envelope :: after →
      ∀ revision, 1 ≤ revision → revision < record.membershipRevision →
        ∃ earlier ∈ world.rows, earlier.record.stream = record.stream ∧
          earlier.record.membershipRevision = revision ∧ Finished before earlier.record
  identical : ∀ world, system.Reachable world →
    ∀ worker record envelope, .sent worker record envelope ∈ world.journal →
      ∀ other again payload, .sent other again payload ∈ world.journal →
        record.id = again.id → envelope = payload
  /-- While no call takes a due row that is free, a call which starts when it is due ends with a
  row, and with an older one. -/
  passedOver : ∀ before, system.Reachable before → ∀ worker now record,
    record ∈ before.candidates now → Free before.calls record.id →
    Session.find before.calls worker = none →
      ∀ world, (system.restrict fun world step => ¬ world.takes record step).Reaches before world →
        ∀ call, Session.find world.calls worker = some call → now ≤ call.now →
          ∀ step after, system.step world step after →
            after.journal ≠ world.journal ++ [.idle worker] ∧
              ∀ older, after.journal = world.journal ++ [.took worker older] →
                older.rank ≤ record.rank
  /-- A row comes up again only after an attempt at it has failed or was broken off. -/
  setBack : ∀ world, system.Reachable world → ∀ id,
    world.journal.countP (RelayEvent.takes id) ≤
      world.journal.countP (RelayEvent.setsBack id) + 1

variable {world : RelayWorld} {host : RelayHost}

theorem RelayInv.same_envelope (inv : RelayInv host world) {worker other : Nat}
    {record again : OutboxRecord} {envelope payload : Envelope}
    (first : .sent worker record envelope ∈ world.journal)
    (second : .sent other again payload ∈ world.journal) (same : record.id = again.id) :
    envelope = payload := by
  obtain ⟨cleared, composed⟩ := inv.sends worker record envelope first
  obtain ⟨clearedAgain, composedAgain⟩ := inv.sends other again payload second
  obtain ⟨row, mem, rfl⟩ := cleared.stored
  obtain ⟨found, inside, rfl⟩ := clearedAgain.stored
  have equal : row = found := Table.eq_of_key_eq inv.distinct mem inside same
  subst equal
  exact Except.ok.inj (composed.symm.trans composedAgain)

theorem membership_relay_keeps_stream_order (host : RelayHost) :
    KeepsStreamOrder (membershipRelay host) where
  ordered world reachable before after worker record envelope split revision positive lower := by
    have inv := relayInv reachable
    obtain ⟨row, mem, rfl⟩ :=
      (inv.sends worker record envelope (by rw [split]; simp)).1.stored
    obtain ⟨earlier, inside, stream, same⟩ := inv.numbered.earlier mem positive lower
    exact ⟨earlier, inside, stream, same,
      inv.ordered before after worker _ envelope split earlier inside stream (same ▸ lower)⟩
  identical world reachable worker record envelope first other again payload second same :=
    (relayInv reachable).same_envelope first second same
  passedOver before reachable worker now record waiting free absent world run call found later step
      after taken := by
    have passing : Passing worker now record before :=
      ⟨waiting, free, fun call found => by cases absent.symm.trans found⟩
    exact (passing.run (relayInv reachable) run).1.turn found later taken
  setBack world reachable id := (turns reachable id).bounded

/-- A call that came to its end. -/
def RelayEvent.completes : RelayEvent → Bool
  | .settled .. | .idle _ => true
  | _ => false

/-- The runs in which every call starts at a time or later. -/
def relaySince (host : RelayHost) (now : Instant) : System RelayWorld RelayStep :=
  (membershipRelay host).restrict fun _ step =>
    ∀ worker started, step = .begin worker started → now ≤ started

/-- A row that is due is taken once enough calls have been completed that started after it was. -/
def NeverStarves (host : RelayHost) : Prop :=
  ∀ world, (membershipRelay host).Reachable world → ∀ now record, record ∈ world.candidates now →
    ∃ bound, ∀ later, (relaySince host now).Reaches world later →
      world.journal.countP RelayEvent.completes + bound ≤
        later.journal.countP RelayEvent.completes →
      ∃ worker, .took worker record ∈ later.journal

/-- The digest of the older row's text, which is the only one that is taken here. -/
def pilotDigest (_ : String) : String :=
  "c6a1df8b4da67a73a2ec3fb45486d6b58572a037411278fe7fe365fc80336725"

def pilotContract : ContractHost where
  tenantId := "a4d7c1f2-5b6e-4c3d-9e8f-7a6b5c4d3e2f"
  text value := if value.isSome then "[object]" else "undefined"
  numberText value := toString value.num
  parsesAsDate text := decide (text.toList.length = 24)
  sha256 := pilotDigest

def pilotRelay : RelayHost where
  contract := pilotContract
  backoffMs := defaultBackoffMs

def pilotPayload (segmentId : String) : Json :=
  .obj [("contractVersion", .num 1), ("changeKind", .str "ENTERED"),
    ("contactId", .str "c7e1b2a3-0d4f-4e5a-8b6c-9d0e1f2a3b4c"), ("segmentId", .str segmentId),
    ("entryId", .str "entry:e1"), ("segmentDefinitionVersion", .num 1),
    ("membershipRevision", .num 1), ("snapshotVersion", .num 1),
    ("evaluatedAt", .str "2026-01-01T00:00:00.000Z"),
    ("stateDigest", .str "0123456789abcdef0123456789abcdef0123456789abcdef0123456789abcdef"),
    ("evidenceRef", .str "evidence:v1")]

def pilotRecord (id : Nat) (segmentId : String) : OutboxRecord where
  id := id
  eventId := "event:f" ++ toString id
  stream := ⟨"c7e1b2a3-0d4f-4e5a-8b6c-9d0e1f2a3b4c", segmentId⟩
  membershipRevision := 1
  payload := pilotPayload segmentId
  payloadHash := pilotDigest (canonicalJson pilotContract
    (.obj [("tenantId", .str pilotContract.tenantId), ("payload", pilotPayload segmentId)]))
  correlationId := "correlation-1"
  causationId := none
  changeCreatedAt := 1767225600000
  createdAt := id

def composes (record : OutboxRecord) : Bool :=
  match composeEnvelope pilotContract record with
  | .ok _ => true
  | .error _ => false

theorem pilotRecord_composes : composes (pilotRecord 1 "vip") = true := by decide +kernel

/-- No call is under way, and the older row is due at the time while the younger one was never
looked at. -/
structure Starving (world : RelayWorld) (now : Instant) : Prop where
  idle : world.calls = []
  rows : ∃ older, older.record = pilotRecord 1 "vip" ∧ due now older = true ∧
    world.rows = [older, .fresh (pilotRecord 2 "new") 0]
  untaken : ∀ worker, .took worker (pilotRecord 2 "new") ∉ world.journal

variable {now : Instant}

theorem Starving.candidates (starving : Starving world now) (started : 0 ≤ now) :
    world.candidates now = [pilotRecord 1 "vip", pilotRecord 2 "new"] := by
  obtain ⟨older, same, isDue, rows⟩ := starving.rows
  have younger : due now (.fresh (pilotRecord 2 "new") 0) = true := by
    simp [due, fresh, waiting, started]
  have free : ∀ record : OutboxRecord, record.membershipRevision = 1 →
      world.blocked record = false := by
    intro record first
    rw [blocked, rows, any_eq_false]
    intro earlier mem
    rcases mem_cons.mp mem with rfl | rest
    · simp [same, first, pilotRecord]
    · rw [mem_singleton] at rest
      simp [rest, first, pilotRecord, fresh]
  have olderFree := free older.record (by rw [same]; rfl)
  have youngerFree := free (fresh (pilotRecord 2 "new") 0).record rfl
  rw [RelayWorld.candidates, rows]
  simp only [filter_cons, isDue, younger, olderFree, youngerFree, filter_nil]
  have ordered : (pilotRecord 1 "vip").rank ≤ (pilotRecord 2 "new").rank := by decide +kernel
  simp [same, fresh, ordered]

theorem lone_step {after : RelayWorld} {call : RelayCall} (step : RelayStep)
    (found : find world.calls 0 = some call) (mine : step.worker? = some 0)
    (taken : proceed host world 0 call step = some after) :
    (relaySince host now).Next world after := by
  refine ⟨step, fun worker started same => ?_, ?_⟩
  · rw [same] at mine
    cases mine
  · show relayNext host world step = some after
    cases step with
    | append _ _ => cases mine
    | begin _ _ => cases mine
    | _ =>
        cases mine
        simp only [relayNext, RelayStep.worker?, found]
        exact taken

/-- One more call that takes the older row, and whose send fails. -/
theorem Starving.again (starving : Starving world now) (started : 0 ≤ now) :
    ∃ later time, now ≤ time ∧ Starving later time ∧
      world.journal.countP RelayEvent.completes + 1 ≤ later.journal.countP RelayEvent.completes ∧
      (relaySince pilotRelay now).Reaches world later := by
  obtain ⟨older, same, isDue, rows⟩ := starving.rows
  obtain ⟨envelope, composed⟩ : ∃ envelope,
      composeEnvelope pilotRelay.contract (pilotRecord 1 "vip") = .ok envelope := by
    have valid := pilotRecord_composes
    unfold composes at valid
    split at valid
    next envelope composed => exact ⟨envelope, composed⟩
    next => cases valid
  have idle := starving.idle
  let record := pilotRecord 1 "vip"
  let call (stage : RelayStage) : RelayCall := ⟨now, true, stage⟩
  let begun := world.advance 0 (call (.selecting [record, pilotRecord 2 "new"])) [.began 0 now]
  let taken := begun.advance 0 (call (.locked record)) [.took 0 record]
  let ready := taken.advance 0 (call (.composed record envelope)) []
  let sent := ready.advance 0 (call (.sending record envelope)) [.sent 0 record envelope]
  let refused := sent.advance 0 (call (.settling record .failed)) []
  let later := (refused.write record.id (settle pilotRelay now .failed)).finish
    0 (.settled 0 record .failed)
  have beginning : (relaySince pilotRelay now).Next world begun := by
    refine ⟨.begin 0 now, ?_, ?_⟩
    · intro worker started same
      cases same
      exact Int.le_refl _
    · show relayNext pilotRelay world (.begin 0 now) = some begun
      simp only [relayNext, idle, find, find?_nil, Option.map_none, starving.candidates started]
      rfl
  have takeable : begun.takeable 0 now record = true := by
    rw [RelayWorld.takeable, Bool.and_eq_true, Bool.not_eq_true', others_eq_false]
    constructor
    · intro session mem other
      rcases mem_replace.mp mem with rfl | ⟨inside, -⟩
      · exact absurd rfl other
      · rw [idle] at inside
        exact absurd inside not_mem_nil
    · have hit : begun.row record.id = some older := by
        show Table.lookup _ _ world.rows = _
        rw [rows]
        simp [Table.lookup, same, record]
      rw [hit]
      exact isDue
  have taking : (relaySince pilotRelay now).Next begun taken :=
    lone_step (.take 0) (find_replace ..) rfl (by simp [proceed, call, takeable]; rfl)
  have composing : (relaySince pilotRelay now).Next taken ready :=
    lone_step (.compose 0) (find_replace ..) rfl (by simp [proceed, call, record, composed]; rfl)
  have sending : (relaySince pilotRelay now).Next ready sent :=
    lone_step (.send 0) (find_replace ..) rfl rfl
  have refusing : (relaySince pilotRelay now).Next sent refused :=
    lone_step (.answer 0 false) (find_replace ..) rfl rfl
  have committing : (relaySince pilotRelay now).Next refused later :=
    lone_step (.commit 0) (find_replace ..) rfl rfl
  have steps : (relaySince pilotRelay now).Reaches world later :=
    (((((Relation.ReflTransGen.single beginning).tail taking).tail composing).tail sending).tail
      refusing).tail committing
  have backoff : 0 ≤ pilotRelay.backoffMs (older.attempts + 1) := by
    show 0 ≤ defaultBackoffMs (older.attempts + 1)
    rw [defaultBackoffMs]
    exact Int.le_min.mpr ⟨Int.mul_nonneg (Int.pow_nonneg (by decide)) (by decide), by decide⟩
  have added : later.journal = world.journal ++ ([.began 0 now, .took 0 record,
      .sent 0 record envelope, .settled 0 record .failed]) := by
    simp [later, refused, sent, ready, taken, begun, RelayWorld.finish, RelayWorld.write, advance]
  refine ⟨later, now + pilotRelay.backoffMs (older.attempts + 1), Int.le_add_of_nonneg_right backoff,
    ⟨?_, ?_, ?_⟩, ?_, steps⟩
  · simp [later, refused, sent, ready, taken, begun, RelayWorld.finish, RelayWorld.write, advance, idle,
      Session.drop, Session.replace]
  · refine ⟨older.settle pilotRelay now .failed, ?_, ?_, ?_⟩
    · rw [settle_record, same]
    · simp [due, settle, waiting]
    · show Table.update _ _ _ world.rows = _
      rw [rows]
      simp [Table.update, same, record, fresh, pilotRecord]
  · intro worker mem
    simp only [added, mem_append, mem_cons, not_mem_nil, or_false] at mem
    rcases mem with old | new | new | new | new
    · exact starving.untaken worker old
    · cases new
    · have ids : (2 : Nat) = 1 := congrArg OutboxRecord.id (RelayEvent.took.inj new).2
      cases ids
    · cases new
    · cases new
  · rw [added]
    simp [RelayEvent.completes]

theorem Starving.forever (bound : Nat) (starving : Starving world now) (started : 0 ≤ now) :
    ∃ later, (relaySince pilotRelay now).Reaches world later ∧
      (∀ worker, .took worker (pilotRecord 2 "new") ∉ later.journal) ∧
      world.journal.countP RelayEvent.completes + bound ≤
        later.journal.countP RelayEvent.completes := by
  induction bound generalizing world now with
  | zero => exact ⟨world, .refl, starving.untaken, Nat.le_refl _⟩
  | succ bound ih =>
      obtain ⟨middle, time, after, again, more, steps⟩ := starving.again started
      obtain ⟨later, rest, untaken, most⟩ := ih again (Int.le_trans started after)
      refine ⟨later, steps.trans (Relation.ReflTransGen.mono ?_ _ _ rest), untaken, by omega⟩
      rintro source target ⟨step, late, taken⟩
      exact ⟨step, fun worker begun same => Int.le_trans after (late worker begun same), taken⟩

/-- Two changes of two streams wait, and the older one is never sent. -/
def waitingPair : RelayWorld :=
  ⟨[.fresh (pilotRecord 1 "vip") 0, .fresh (pilotRecord 2 "new") 0], [], []⟩

theorem waitingPair_starving : Starving waitingPair 10 where
  idle := rfl
  rows := ⟨.fresh (pilotRecord 1 "vip") 0, rfl, by decide, rfl⟩
  untaken _ := not_mem_nil

theorem waitingPair_reachable : (membershipRelay pilotRelay).Reachable waitingPair := by
  have first : (membershipRelay pilotRelay).step .initial (.append (pilotRecord 1 "vip") 0)
      ⟨[.fresh (pilotRecord 1 "vip") 0], [], []⟩ := by
    show relayNext _ _ _ = _
    simp [relayNext, appendable, ofStream, RelayWorld.initial, pilotRecord]
  have second : (membershipRelay pilotRelay).step ⟨[.fresh (pilotRecord 1 "vip") 0], [], []⟩
      (.append (pilotRecord 2 "new") 0) waitingPair := by
    show relayNext _ _ _ = _
    simp [relayNext, appendable, ofStream, waitingPair, pilotRecord, fresh]
  exact ((System.Reachable.of_init rfl).step first).step second

theorem younger_row_may_starve : ¬ NeverStarves pilotRelay := by
  intro never
  have due : pilotRecord 2 "new" ∈ waitingPair.candidates 10 := by
    rw [waitingPair_starving.candidates (by decide)]
    simp
  obtain ⟨bound, taken⟩ := never waitingPair waitingPair_reachable 10 (pilotRecord 2 "new") due
  obtain ⟨later, run, untaken, completed⟩ := waitingPair_starving.forever bound (by decide)
  obtain ⟨worker, took⟩ := taken later run completed
  exact untaken worker took

end DContact.Customer360

import DContact.Customer360.MembershipRelayMoves

/-!
# The order of a membership stream

A candidate is chosen only when nothing of its stream before it waits, and what is settled stays
settled, so everything before a row has been settled when the row is sent, whatever other calls
do meanwhile. A row is published only after the broker acknowledged it. The envelope is composed
of what was committed with the row, so every send of the row carries the same one.
-/

namespace DContact.Customer360

open Lib List Session SegmentMembershipOutbox RelayCall RelayStage
open Governance (Instant)
open RelayWorld

/-! ## The history -/

def Finished (events : List RelayEvent) (record : OutboxRecord) : Prop :=
  ((∃ worker, .acknowledged worker record ∈ events) ∧
    ∃ worker, .settled worker record .published ∈ events) ∨
  ∃ worker, .settled worker record .quarantined ∈ events

variable {events : List RelayEvent} {record : OutboxRecord}

theorem Finished.mono {later : List RelayEvent}
    (finished : Finished events record) (more : events ⊆ later) : Finished later record := by
  rcases finished with ⟨⟨worker, acknowledged⟩, other, published⟩ | ⟨worker, quarantined⟩
  · exact .inl ⟨⟨worker, more acknowledged⟩, other, more published⟩
  · exact .inr ⟨worker, more quarantined⟩

def SentInOrder (rows : List SegmentMembershipOutbox) (journal : List RelayEvent) : Prop :=
  ∀ before after worker record envelope,
    journal = before ++ .sent worker record envelope :: after →
      ∀ earlier ∈ rows, earlier.record.stream = record.stream →
        earlier.record.membershipRevision < record.membershipRevision →
          Finished before earlier.record

def RelayEvent.sends : RelayEvent → Bool
  | .sent .. => true
  | _ => false

variable {journal : List RelayEvent} {event : RelayEvent}

/-- An event of a longer history is one of the old history or one of the new events. -/
theorem split_append {before after : List RelayEvent}
    (split : journal ++ events = before ++ event :: after) :
    (∃ rest, journal = before ++ event :: rest) ∨
      ∃ front, before = journal ++ front ∧ events = front ++ event :: after := by
  rcases append_eq_append_iff.mp split with ⟨front, rfl, same⟩ | ⟨back, rfl, same⟩
  · exact .inr ⟨front, rfl, same⟩
  · cases back with
    | nil => exact .inr ⟨[], by simp, by simpa using same.symm⟩
    | cons head rest =>
        rw [cons_append, List.cons.injEq] at same
        exact .inl ⟨rest, by rw [same.1]⟩

variable {rows : List SegmentMembershipOutbox}

theorem SentInOrder.extend
    (ordered : SentInOrder rows journal) (silent : ∀ event ∈ events, event.sends = false) :
    SentInOrder rows (journal ++ events) := by
  intro before after worker record envelope split
  rcases split_append split with ⟨rest, old⟩ | ⟨front, -, new⟩
  · exact ordered before rest worker record envelope old
  · have sends := silent (.sent worker record envelope) (by rw [new]; simp)
    cases sends

theorem SentInOrder.send {worker : Nat} {envelope : Envelope} (ordered : SentInOrder rows journal)
    (finished : ∀ earlier ∈ rows, earlier.record.stream = record.stream →
      earlier.record.membershipRevision < record.membershipRevision →
        Finished journal earlier.record) :
    SentInOrder rows (journal ++ [.sent worker record envelope]) := by
  intro before after other sent payload split
  rcases split_append split with ⟨rest, old⟩ | ⟨front, rfl, new⟩
  · exact ordered before rest other sent payload old
  · cases front with
    | nil =>
        cases new
        rw [append_nil]
        exact finished
    | cons head rest => simp at new

/-! ## What holds of the rows -/

def Numbered (rows : List SegmentMembershipOutbox) : Prop :=
  ∀ stream, ((rows.filter fun row => row.record.stream = stream).map fun row =>
      row.record.membershipRevision) =
    List.range' 1 (rows.filter fun row => row.record.stream = stream).length

/-- No two rows have one identifier. -/
def DistinctIds (rows : List SegmentMembershipOutbox) : Prop :=
  (rows.map fun row => row.record.id).Nodup

theorem Numbered.bounds (numbered : Numbered rows)
    {row : SegmentMembershipOutbox} (mem : row ∈ rows) :
    1 ≤ row.record.membershipRevision ∧ row.record.membershipRevision ≤
      (rows.filter fun other => other.record.stream = row.record.stream).length := by
  have inside : row.record.membershipRevision ∈ List.range' 1
      (rows.filter fun other => other.record.stream = row.record.stream).length := by
    rw [← numbered row.record.stream]
    refine mem_map.mpr ⟨row, mem_filter.mpr ⟨mem, ?_⟩, rfl⟩
    exact decide_eq_true rfl
  rw [mem_range'_1] at inside
  omega

theorem Numbered.earlier (numbered : Numbered rows)
    {row : SegmentMembershipOutbox} (mem : row ∈ rows) {revision : Nat} (positive : 1 ≤ revision)
    (lower : revision < row.record.membershipRevision) :
    ∃ earlier ∈ rows, earlier.record.stream = row.record.stream ∧
      earlier.record.membershipRevision = revision := by
  have bounds := numbered.bounds mem
  have inside : revision ∈ (rows.filter fun other => other.record.stream = row.record.stream).map
      fun row => row.record.membershipRevision := by
    rw [numbered row.record.stream, mem_range'_1]
    omega
  obtain ⟨earlier, found, same⟩ := mem_map.mp inside
  rw [mem_filter, decide_eq_true_eq] at found
  exact ⟨earlier, found.1, found.2, same⟩

section
variable (numbered : Numbered rows)
  (next : record.membershipRevision = (rows.filter fun row => row.record.stream = record.stream).length + 1)
include numbered next

/-- The next revision of a stream follows every row of it. -/
theorem Numbered.follows : FollowsAll rows record := by
  intro row mem stream
  have bounds := numbered.bounds mem
  rw [stream] at bounds
  omega

theorem Numbered.append {availableAt : Instant} :
    Numbered (rows ++ [.fresh record availableAt]) := by
  intro stream
  rw [filter_append, map_append, numbered stream, length_append]
  by_cases same : record.stream = stream
  · subst same
    have new : [fresh record availableAt].filter
        (fun row => row.record.stream = record.stream) = [.fresh record availableAt] := by
      simp [fresh]
    rw [new, length_singleton, List.range'_concat]
    simp [fresh, next, Nat.add_comm]
  · simp [fresh, same]

end

variable {now : Instant} {host : RelayHost}

theorem Numbered.settle (numbered : Numbered rows) {id : Nat} {verdict : RelayVerdict} :
    Numbered (Table.update (fun row => row.record.id) id
      (settle host now verdict) rows) := by
  intro stream
  have same : ∀ row : SegmentMembershipOutbox,
      (if row.record.id = id then row.settle host now verdict else row).record = row.record := by
    intro row
    split <;> simp
  have kept := numbered stream
  rw [Table.update, filter_map, map_map, length_map]
  simpa only [Function.comp_def, same] using kept

variable {later : List SegmentMembershipOutbox}

theorem SentInOrder.grow (ordered : SentInOrder rows journal) (grows : OutboxGrows rows later)
    (stored : ∀ worker record envelope, .sent worker record envelope ∈ journal →
      Cleared rows record) : SentInOrder later journal := by
  intro before after worker record envelope split earlier mem stream lower
  rcases grows.recent earlier mem with ⟨old, oldMember, same, -⟩ | follows
  · have finished := ordered before after worker record envelope split old oldMember
      (same ▸ stream) (same ▸ lower)
    exact same ▸ finished
  · obtain ⟨row, inside, rfl⟩ := (stored worker record envelope (by rw [split]; simp)).stored
    have above := follows row inside stream.symm
    exact absurd lower (Nat.not_lt.mpr (Nat.le_of_lt above))

/-! ## The invariant -/

/-- What a call knows of its rows. -/
def StageSound (host : RelayHost) (rows : List SegmentMembershipOutbox)
    (journal : List RelayEvent) : RelayStage → Prop
  | .selecting ahead => ∀ record ∈ ahead, Cleared rows record
  | .locked record => Cleared rows record
  | .composed record envelope | .sending record envelope =>
      Cleared rows record ∧ composeEnvelope host.contract record = .ok envelope
  | .settling record verdict =>
      Cleared rows record ∧
        (verdict = .published → ∃ worker, .acknowledged worker record ∈ journal)

theorem StageSound.mono {more : List RelayEvent} {stage : RelayStage}
    (sound : StageSound host rows journal stage) (grows : OutboxGrows rows later)
    (longer : journal ⊆ more) : StageSound host later more stage := by
  cases stage with
  | selecting ahead => exact fun record mem => (sound record mem).mono grows
  | locked record => exact Cleared.mono sound grows
  | composed record envelope | sending record envelope => exact ⟨sound.1.mono grows, sound.2⟩
  | settling record verdict =>
      refine ⟨sound.1.mono grows, fun published => ?_⟩
      obtain ⟨worker, acknowledged⟩ := sound.2 published
      exact ⟨worker, longer acknowledged⟩

structure RelayInv (host : RelayHost) (world : RelayWorld) : Prop where
  distinct : DistinctIds world.rows
  numbered : Numbered world.rows
  finished : ∀ row ∈ world.rows, row.waiting = false → Finished world.journal row.record
  sound : ∀ session ∈ world.calls, StageSound host world.rows world.journal session.work.stage
  waits : ∀ session ∈ world.calls, ∀ id, session.work.lock = some id →
    ∀ row ∈ world.rows, row.record.id = id → row.waiting = true
  exclusive : Session.Exclusive RelayCall.lock world.calls
  sends : ∀ worker record envelope, .sent worker record envelope ∈ world.journal →
    Cleared world.rows record ∧ composeEnvelope host.contract record = .ok envelope
  ordered : SentInOrder world.rows world.journal

theorem relayInv_initial (host : RelayHost) : RelayInv host .initial where
  distinct := nodup_nil
  numbered _ := rfl
  finished := forall_mem_nil _
  sound := forall_mem_nil _
  waits := forall_mem_nil _
  exclusive := forall_mem_nil _
  sends _ _ _ mem := absurd mem not_mem_nil
  ordered before after worker record envelope split := by simp [RelayWorld.initial] at split

namespace RelayInv

variable {host : RelayHost} {world : RelayWorld} {worker : Nat} {call : RelayCall}

section
variable (inv : RelayInv host world)
include inv

/-- A call goes on with a lock that nobody else has, and what it adds to the history is sound. -/
theorem advance (sound : StageSound host world.rows (world.journal ++ events) call.stage)
    (free : ∀ id, call.lock = some id → ∀ session ∈ world.calls, session.pid ≠ worker →
      session.work.lock ≠ some id)
    (waits : ∀ id, call.lock = some id → ∀ row ∈ world.rows, row.record.id = id →
      row.waiting = true) (sends : ∀ worker record envelope, .sent worker record envelope ∈ events →
      Cleared world.rows record ∧ composeEnvelope host.contract record = .ok envelope)
    (ordered : SentInOrder world.rows (world.journal ++ events)) :
    RelayInv host (world.advance worker call events) where
  distinct := inv.distinct
  numbered := inv.numbered
  finished row mem settled :=
    (inv.finished row mem settled).mono (subset_append_left _ _)
  sound := forall_replace
    (fun session mem => (inv.sound session mem).mono (.refl _) (subset_append_left _ _))
    sound
  waits := forall_replace inv.waits waits
  exclusive := inv.exclusive.replace free
  sends other record envelope mem := by
    rcases mem_append.mp mem with old | new
    · exact inv.sends other record envelope old
    · exact sends other record envelope new
  ordered := ordered

theorem proceed {next : RelayCall} (found : Session.find world.calls worker = some call)
    (sound : StageSound host world.rows (world.journal ++ events) next.stage)
    (same : next.lock = none ∨ next.lock = call.lock)
    (silent : ∀ event ∈ events, event.sends = false) :
    RelayInv host (world.advance worker next events) := by
  have mine := find_mem found
  refine inv.advance sound ?_ ?_ ?_ (inv.ordered.extend silent)
  · intro id locked session mem other
    rcases same with none | kept
    · rw [none] at locked
      cases locked
    · exact inv.exclusive ⟨worker, call⟩ mine session mem (Ne.symm other) id (kept ▸ locked)
  · intro id locked
    rcases same with none | kept
    · rw [none] at locked
      cases locked
    · exact inv.waits ⟨worker, call⟩ mine id (kept ▸ locked)
  · intro other record envelope mem
    have sends := silent _ mem
    cases sends

/-- A call ends without having written anything. -/
theorem finish (silent : event.sends = false) :
    RelayInv host (world.finish worker event) where
  distinct := inv.distinct
  numbered := inv.numbered
  finished row mem settled :=
    (inv.finished row mem settled).mono (subset_append_left _ _)
  sound := forall_drop fun session mem =>
    (inv.sound session mem).mono (.refl _) (subset_append_left _ _)
  waits := forall_drop inv.waits
  exclusive := inv.exclusive.drop worker
  sends other record envelope mem := by
    rcases mem_append.mp mem with old | new
    · exact inv.sends other record envelope old
    · rw [mem_singleton] at new
      rw [← new] at silent
      cases silent
  ordered := inv.ordered.extend fun other mem => mem_singleton.mp mem ▸ silent

theorem grow (grows : OutboxGrows world.rows rows) (distinct : DistinctIds rows)
    (numbered : Numbered rows)
    (finished : ∀ row ∈ rows, row.waiting = false → Finished world.journal row.record)
    (waits : ∀ session ∈ world.calls, ∀ id, session.work.lock = some id →
      ∀ row ∈ rows, row.record.id = id → row.waiting = true) :
    RelayInv host { world with rows } where
  distinct := distinct
  numbered := numbered
  finished := finished
  sound session mem := (inv.sound session mem).mono grows (List.Subset.refl _)
  waits := waits
  exclusive := inv.exclusive
  sends other record envelope mem :=
    ⟨(inv.sends other record envelope mem).1.mono grows,
      (inv.sends other record envelope mem).2⟩
  ordered := inv.ordered.grow grows fun other record envelope mem =>
    (inv.sends other record envelope mem).1

theorem append {availableAt : Instant} (next : world.appendable record = true) :
    RelayInv host { world with rows := world.rows ++ [.fresh record availableAt] } := by
  rw [RelayWorld.appendable, Bool.and_eq_true, decide_eq_true_eq, decide_eq_true_eq] at next
  obtain ⟨following, unknown⟩ := next
  refine inv.grow (.append (inv.numbered.follows following)) ?_ (inv.numbered.append following) ?_ ?_
  · refine Table.nodup_append inv.distinct ?_
    intro mem
    obtain ⟨row, inside, same⟩ := mem_map.mp mem
    exact unknown row inside same
  · intro row mem settled
    rcases mem_snoc.mp mem with old | rfl
    · exact inv.finished row old settled
    · cases settled
  · intro session mem id locked row inside same
    rcases mem_snoc.mp inside with old | rfl
    · exact inv.waits session mem id locked row old same
    · rfl

/-- The commit of a call settles its row, and nobody else's. -/
theorem commit {verdict : RelayVerdict} (found : Session.find world.calls worker = some call)
    (settling : call.stage = .settling record verdict) (live : call.live = true) :
    RelayInv host ((world.write record.id
        (settle host call.now verdict)).finish worker
      (.settled worker record verdict)) := by
  have mine := find_mem found
  have locked : call.lock = some record.id := by simp [lock, live, settling, record?]
  have sound := inv.sound _ mine
  rw [settling] at sound
  have waits := inv.waits _ mine record.id locked
  have ended : RelayInv host (world.finish worker (.settled worker record verdict)) :=
    inv.finish rfl
  refine ended.grow (.settle waits) ?_ (inv.numbered.settle) ?_ ?_
  · show (List.map _ (Table.update _ _ _ _)).Nodup
    rw [Table.map_key_update fun row => by rw [settle_record]]
    exact inv.distinct
  · intro row mem settled
    obtain ⟨before, old, rfl⟩ := Table.mem_update.mp mem
    by_cases same : before.record.id = record.id
    · obtain ⟨stored, inside, rfl⟩ := sound.1.stored
      have equal : before = stored := Table.eq_of_key_eq inv.distinct old inside same
      subst equal
      rw [if_pos rfl] at settled ⊢
      rw [settle_waiting, decide_eq_false_iff_not] at settled
      rw [settle_record]
      cases verdict with
      | published =>
          obtain ⟨other, acknowledged⟩ := sound.2 rfl
          exact .inl ⟨⟨other, mem_append_left _ acknowledged⟩, worker, by simp [RelayWorld.finish]⟩
      | failed => exact absurd rfl settled
      | quarantined => exact .inr ⟨worker, by simp [RelayWorld.finish]⟩
    · rw [if_neg same] at settled ⊢
      exact ended.finished before old settled
  · intro session mem id held row inside same
    obtain ⟨present, other⟩ := mem_drop.mp mem
    obtain ⟨before, old, rfl⟩ := Table.mem_update.mp inside
    by_cases mineToo : before.record.id = record.id
    · rw [if_pos mineToo, settle_record] at same
      rw [← same, mineToo] at held
      exact absurd held (inv.exclusive _ mine session present (Ne.symm other) record.id locked)
    · rw [if_neg mineToo] at same ⊢
      exact inv.waits session present id held before old same

end

theorem of_takeable (free : world.takeable worker now record = true) :
    (∀ session ∈ world.calls, session.pid ≠ worker → session.work.lock ≠ some record.id) ∧
      ∃ row, world.row record.id = some row ∧ due now row = true := by
  rw [takeable, Bool.and_eq_true, Bool.not_eq_true', others_eq_false, Option.any_eq_true] at free
  exact ⟨fun session mem other => by simpa using free.1 session mem other, free.2⟩

theorem cleared_candidates
    (mem : record ∈ world.candidates now) : Cleared world.rows record := by
  rw [candidates, mem_insertionSort] at mem
  obtain ⟨row, found, rfl⟩ := mem_map.mp mem
  rw [mem_filter, Bool.and_eq_true, Bool.not_eq_true'] at found
  refine ⟨⟨row, found.1, rfl⟩, fun earlier inside stream lower => ?_⟩
  have away := any_eq_false.mp found.2.2 earlier inside
  simpa [stream, lower] using away

theorem began (inv : RelayInv host world) :
    RelayInv host (world.advance worker ⟨now, true, .selecting (world.candidates now)⟩
      [.began worker now]) := by
  refine inv.advance (fun record mem => cleared_candidates mem) ?_ ?_ ?_ ?_
  · exact fun id locked => by cases locked
  · exact fun id locked => by cases locked
  · exact fun other record envelope mem => by cases mem_singleton.mp mem
  · exact inv.ordered.extend fun event mem => mem_singleton.mp mem ▸ rfl

theorem moved (inv : RelayInv host world) {step : RelayStep} {after : RelayWorld}
    (found : Session.find world.calls worker = some call)
    (moved : RelayMoved host world worker call step after) : RelayInv host after := by
  have mine := find_mem found
  have sound := inv.sound _ mine
  have longer : ∀ {stage : RelayStage} (events : List RelayEvent),
      StageSound host world.rows world.journal stage →
        StageSound host world.rows (world.journal ++ events) stage :=
    fun events held => held.mono (.refl _) (subset_append_left _ _)
  cases moved with
  | skipped selecting held =>
      rw [selecting] at sound
      refine inv.proceed found ?_ (.inl ?_) (forall_mem_nil _)
      · exact longer [] fun record mem => sound record (mem_cons_of_mem _ mem)
      · simp [lock, record?]
  | @took record ahead _ selecting live free =>
      rw [selecting] at sound
      obtain ⟨unheld, row, hit, due⟩ := of_takeable free
      have locked : ∀ id, lock { call with stage := .locked record } = some id →
          record.id = id := by
        intro id locked
        simpa [lock, live, record?] using locked
      refine inv.advance (longer [_] (sound record mem_cons_self)) ?_ ?_ ?_ ?_
      · intro id lock session mem other
        exact locked id lock ▸ unheld session mem other
      · intro id lock other mem same
        have equal : other = row := Table.eq_of_key_eq inv.distinct mem (Table.lookup_mem hit)
          (same.trans ((locked id lock).symm.trans (Table.lookup_key hit).symm))
        rw [RelayWorld.due, Bool.and_eq_true] at due
        exact equal ▸ due.1
      · exact fun other sent envelope mem => by cases mem_singleton.mp mem
      · exact inv.ordered.extend fun event mem => mem_singleton.mp mem ▸ rfl
  | idled selecting live => exact inv.finish rfl
  | composed stage live valid =>
      rw [stage] at sound
      refine inv.proceed found (longer [] ⟨sound, valid⟩) (.inr ?_)
        (forall_mem_nil _)
      simp [lock, stage, record?]
  | @refused record error _ stage live invalid =>
      rw [stage] at sound
      refine inv.proceed found (longer [] ⟨sound, ?_⟩) (.inr ?_)
        (forall_mem_nil _)
      · cases error <;> exact nofun
      · simp [lock, stage, record?]
  | @sent record envelope _ stage =>
      rw [stage] at sound
      have kept : lock { call with stage := .sending record envelope } = call.lock := by
        simp [lock, stage, record?]
      refine inv.advance (longer [_] sound) ?_ ?_ ?_ (inv.ordered.send ?_)
      · intro id lock session mem other
        exact inv.exclusive _ mine session mem (Ne.symm other) id (kept ▸ lock)
      · exact fun id lock => inv.waits _ mine id (kept ▸ lock)
      · intro other sent payload mem
        cases mem_singleton.mp mem
        exact sound
      · intro earlier inside stream lower
        exact inv.finished earlier inside (sound.1.settled earlier inside stream lower)
  | @acknowledged record envelope _ stage =>
      rw [stage] at sound
      refine inv.proceed found ⟨sound.1, fun _ => ⟨worker, by simp⟩⟩ (.inr ?_) ?_
      · simp [lock, stage, record?]
      · exact fun event mem => mem_singleton.mp mem ▸ rfl
  | failed stage =>
      rw [stage] at sound
      refine inv.proceed found ⟨sound.1, nofun⟩ (.inr ?_)
        (forall_mem_nil _)
      simp [lock, stage, record?]
  | committed settling live => exact inv.commit found settling live
  | lapsed live =>
      refine inv.proceed found (longer [_] sound) (.inl rfl) ?_
      exact fun event mem => mem_singleton.mp mem ▸ rfl
  | crashed => exact inv.finish rfl

theorem next (inv : RelayInv host world) {step : RelayStep} {after : RelayWorld}
    (taken : (membershipRelay host).step world step after) : RelayInv host after := by
  cases next_of_step taken with
  | appended next => exact inv.append next
  | began absent => exact inv.began
  | moved mine found moved => exact inv.moved found moved

end RelayInv

theorem relayInv {world : RelayWorld}
    (reachable : (membershipRelay host).Reachable world) : RelayInv host world :=
  reachable.invariant (fun start fresh => (show start = .initial from fresh) ▸ relayInv_initial host)
    fun _ _ _ inv taken => inv.next taken

end DContact.Customer360

import DContact.Customer360.MembershipRelayOrder

/-!
# Whose turn it is in the membership relay

A call takes the oldest row that is due and that no other call holds. A row which is due is passed
over for older rows only, and each of these comes up again only after an attempt at it has failed
or was broken off. That is all: an older row whose sends keep failing is chosen again at every
call which starts after its back-off, so a younger row of another stream may never be sent.
-/

namespace DContact.Customer360

open Lib List Session RelayCall RelayStage RelayEvent
open Governance (Instant)
open RelayWorld

/-! ## Passing over -/

def RelayWorld.takes (world : RelayWorld) (record : OutboxRecord) : RelayStep → Prop
  | .take worker => ∃ call ahead, Session.find world.calls worker = some call ∧
      call.stage = .selecting (record :: ahead)
  | _ => False

/-- No call holds the row. -/
def Free (calls : List (Session RelayCall)) (id : Nat) : Prop :=
  ∀ session ∈ calls, session.work.lock ≠ some id

variable {world : RelayWorld} {now : Instant} {record : OutboxRecord}

theorem mem_candidates : record ∈ world.candidates now ↔
      Cleared world.rows record ∧ ∃ row ∈ world.rows, row.record = record ∧ due now row = true := by
  rw [candidates, mem_insertionSort]
  constructor
  · intro mem
    obtain ⟨row, found, rfl⟩ := mem_map.mp mem
    rw [mem_filter, Bool.and_eq_true] at found
    have listed : row.record ∈ world.candidates now := by
      rw [candidates, mem_insertionSort]
      exact mem
    exact ⟨RelayInv.cleared_candidates listed, row, found.1, rfl, found.2.1⟩
  · rintro ⟨cleared, row, mem, rfl, isDue⟩
    refine mem_map.mpr ⟨row, mem_filter.mpr ⟨mem, ?_⟩, rfl⟩
    rw [isDue, Bool.true_and, Bool.not_eq_true', blocked, any_eq_false]
    intro earlier inside waits
    rw [Bool.and_eq_true, Bool.and_eq_true, decide_eq_true_eq, decide_eq_true_eq] at waits
    rw [cleared.settled earlier inside waits.1.1 waits.1.2] at waits
    cases waits.2

theorem due_later {later : Instant} {row : SegmentMembershipOutbox} (isDue : due now row = true)
    (after : now ≤ later) : due later row = true := by
  rw [due, Bool.and_eq_true, decide_eq_true_eq] at isDue ⊢
  exact ⟨isDue.1, Int.le_trans isDue.2 after⟩

/-- While nobody takes a due record, it stays due and free, and a call of the worker that started
at a time when it was due still has it ahead. -/
structure Passing (worker : Nat) (now : Instant) (record : OutboxRecord) (world : RelayWorld) :
    Prop where
  waiting : record ∈ world.candidates now
  free : Free world.calls record.id
  ahead : ∀ call, Session.find world.calls worker = some call → now ≤ call.now →
    ∀ ahead, call.stage = .selecting ahead →
      record ∈ ahead ∧ ahead.Pairwise fun left right => left.rank ≤ right.rank

theorem candidates_ordered (world : RelayWorld) (now : Instant) :
    (world.candidates now).Pairwise fun left right => left.rank ≤ right.rank := by
  have total : Std.Total fun left right : OutboxRecord => left.rank ≤ right.rank :=
    ⟨fun left right => le_total left.rank right.rank⟩
  have trans : IsTrans OutboxRecord fun left right => left.rank ≤ right.rank :=
    ⟨fun _ _ _ => le_trans⟩
  exact pairwise_insertionSort _ _

variable {host : RelayHost} {worker : Nat}

/-- A due record that is free can be taken by any call that started when it was due. -/
theorem takeable_of_waiting {later : Instant} (inv : RelayInv host world)
    (waiting : record ∈ world.candidates now) (free : Free world.calls record.id)
    (after : now ≤ later) : world.takeable worker later record = true := by
  obtain ⟨-, row, mem, rfl, isDue⟩ := mem_candidates.mp waiting
  rw [takeable, Bool.and_eq_true, Bool.not_eq_true', others_eq_false]
  constructor
  · exact fun session inside _ => by simpa using free session inside
  · rw [RelayWorld.row, Table.lookup_of_member inv.distinct mem rfl]
    exact due_later isDue after

variable {calls : List (Session RelayCall)} {id : Nat}

theorem Free.replace {next : RelayCall} (free : Free calls id) (unlocked : next.lock ≠ some id) :
    Free (Session.replace calls worker next) id :=
  forall_replace free unlocked

theorem Free.drop (free : Free calls id) : Free (Session.drop calls worker) id :=
  forall_drop free

variable {after : RelayWorld} {call : RelayCall}

/-- Only a take locks a row that was free. -/
theorem Free.moved {step : RelayStep}
    (free : Free world.calls id) (found : Session.find world.calls worker = some call)
    (moved : RelayMoved host world worker call step after)
    (mine : step.worker? = some worker)
    (untaken : ∀ record, record.id = id → ¬ world.takes record step) : Free after.calls id := by
  have unheld : call.lock ≠ some id := free _ (find_mem found)
  cases moved with
  | skipped selecting held => exact free.replace (by simp [lock, record?])
  | took selecting live takeable =>
      refine free.replace ?_
      simp only [lock, record?, live, if_true, Option.map_some, ne_eq, Option.some.injEq]
      intro same
      cases mine
      exact untaken _ same ⟨call, _, found, selecting⟩
  | composed stage live valid | refused stage live invalid | sent stage | acknowledged stage
  | failed stage =>
      rw [lock, stage] at unheld
      exact free.replace unheld
  | lapsed live => exact free.replace (by simp [lock])
  | _ => exact free.drop

/-- A due record stays due while the outbox grows and its own row is left alone. -/
theorem waiting_of_kept
    (waiting : record ∈ world.candidates now) (grows : OutboxGrows world.rows after.rows)
    (kept : ∀ row ∈ world.rows, row.record = record → row ∈ after.rows) :
    record ∈ after.candidates now := by
  obtain ⟨cleared, row, mem, same, isDue⟩ := mem_candidates.mp waiting
  exact mem_candidates.mpr ⟨cleared.mono grows, row, kept row mem same, same, isDue⟩

theorem moved_rows {step : RelayStep}
    (inv : RelayInv host world) (found : Session.find world.calls worker = some call)
    (moved : RelayMoved host world worker call step after) :
    OutboxGrows world.rows after.rows ∧
      ∀ row ∈ world.rows, call.lock ≠ some row.record.id → row ∈ after.rows := by
  cases moved with
  | @committed record verdict _ settling live =>
      have locked : call.lock = some record.id := by
        simp [lock, live, settling, record?]
      refine ⟨.settle (inv.waits _ (find_mem found) record.id locked), ?_⟩
      intro row mem unlocked
      refine Table.mem_update.mpr ⟨row, mem, ?_⟩
      rw [if_neg]
      rintro same
      exact unlocked (same ▸ locked)
  | _ => exact ⟨.refl _, fun row mem _ => mem⟩

theorem moved_others {other : Nat}
    {step : RelayStep} (moved : RelayMoved host world worker call step after) (differs : other ≠ worker) :
    Session.find after.calls other = Session.find world.calls other := by
  cases moved with
  | idled | committed | crashed => exact find_drop_of_ne differs
  | _ => exact find_replace_of_ne differs

namespace Passing

variable {step : RelayStep}

/-- A call goes on looking at the candidates only by leaving the first of them behind. -/
theorem selecting_moved {other : Nat} {next : RelayCall} {ahead : List OutboxRecord}
    (moved : RelayMoved host world other call step after)
    (found : Session.find after.calls other = some next) (stage : next.stage = .selecting ahead) :
    (next.now = call.now ∧ call.stage = .selecting ahead) ∨
      ∃ first, call.stage = .selecting (first :: ahead) ∧ next.now = call.now ∧
        world.takeable other call.now first = false := by
  cases moved with
  | skipped selecting held =>
      cases (find_replace ..).symm.trans found
      cases stage
      exact .inr ⟨_, selecting, rfl, held⟩
  | lapsed live =>
      cases (find_replace ..).symm.trans found
      exact .inl ⟨rfl, stage⟩
  | idled | committed | crashed => cases (find_drop ..).symm.trans found
  | _ =>
      cases (find_replace ..).symm.trans found
      cases stage

/-- A call that is about to take a row under the record's identifier is about to take the record. -/
theorem eq_of_id (passing : Passing worker now record world) (inv : RelayInv host world)
    {first : OutboxRecord} (takes : world.takes first step)
    (same : first.id = record.id) : first = record := by
  cases step with
  | take other =>
      obtain ⟨call, ahead, found, stage⟩ := takes
      have sound := inv.sound _ (find_mem found)
      rw [stage] at sound
      obtain ⟨row, inside, rfl⟩ := (sound first mem_cons_self).stored
      obtain ⟨-, stored, mem, rfl, -⟩ := mem_candidates.mp passing.waiting
      exact congrArg _ (Table.eq_of_key_eq inv.distinct inside mem same)
  | _ => exact takes.elim

theorem next (passing : Passing worker now record world) (inv : RelayInv host world)
    (untaken : ¬ world.takes record step)
    (taken : (membershipRelay host).step world step after) : Passing worker now record after := by
  cases next_of_step taken with
  | @appended added availableAt appendable =>
      rw [RelayWorld.appendable, Bool.and_eq_true, decide_eq_true_eq] at appendable
      refine ⟨waiting_of_kept passing.waiting (.append (inv.numbered.follows appendable.1)) ?_,
        passing.free, passing.ahead⟩
      exact fun row mem _ => mem_append_left _ mem
  | @began other begun absent =>
      refine ⟨passing.waiting, passing.free.replace (by simp [lock, record?]), ?_⟩
      intro call found later ahead stage
      by_cases same : worker = other
      · subst same
        cases (find_replace ..).symm.trans found
        cases stage
        obtain ⟨cleared, row, mem, equal, isDue⟩ := mem_candidates.mp passing.waiting
        exact ⟨mem_candidates.mpr ⟨cleared, row, mem, equal, due_later isDue later⟩,
          candidates_ordered ..⟩
      · have kept : Session.find (world.advance other ⟨begun, true, .selecting (world.candidates begun)⟩
            [.began other begun]).calls worker = Session.find world.calls worker :=
          find_replace_of_ne same
        exact passing.ahead call (kept ▸ found) later ahead stage
  | @moved _ _ other call mine found moved =>
      have locked : call.lock ≠ some record.id := passing.free _ (find_mem found)
      obtain ⟨grows, kept⟩ := moved_rows inv found moved
      refine ⟨waiting_of_kept passing.waiting grows ?_, passing.free.moved found moved mine ?_, ?_⟩
      · exact fun row mem same => kept row mem (same ▸ locked)
      · intro first same takes
        exact untaken (passing.eq_of_id inv takes same ▸ takes)
      · intro next foundNext later ahead stage
        by_cases same : worker = other
        · subst same
          rcases selecting_moved moved foundNext stage with ⟨equal, old⟩ | ⟨first, old, equal, held⟩
          · exact passing.ahead call found (equal ▸ later) ahead old
          · have before := passing.ahead call found (equal ▸ later) _ old
            rcases mem_cons.mp before.1 with rfl | rest
            · rw [takeable_of_waiting inv passing.waiting passing.free (equal ▸ later)] at held
              cases held
            · exact ⟨rest, before.2.of_cons⟩
        · exact passing.ahead next (moved_others moved same ▸ foundNext) later ahead stage

theorem run {before : RelayWorld} (passing : Passing worker now record before)
    (inv : RelayInv host before)
    (run : ((membershipRelay host).restrict fun world step => ¬ world.takes record step).Reaches
      before world) : Passing worker now record world ∧ RelayInv host world := by
  induction run with
  | refl => exact ⟨passing, inv⟩
  | tail _ step ih =>
      obtain ⟨label, untaken, taken⟩ := step
      exact ⟨ih.1.next ih.2 untaken taken, ih.2.next taken⟩

/-- The worker's call, if it started late enough, does not end without a row, and what it takes is
not younger than the record. -/
theorem turn (passing : Passing worker now record world)
    (found : Session.find world.calls worker = some call)
    (later : now ≤ call.now) (taken : (membershipRelay host).step world step after) :
    after.journal ≠ world.journal ++ [.idle worker] ∧
      ∀ older, after.journal = world.journal ++ [.took worker older] →
        older.rank ≤ record.rank := by
  have ahead := passing.ahead call found later
  cases next_of_step taken with
  | appended appendable => exact ⟨by simp, by simp⟩
  | began absent => exact ⟨by simp [advance], by simp [advance]⟩
  | moved mine foundOther moved =>
      cases moved with
      | took selecting live takeable =>
          refine ⟨by simp [advance], fun older same => ?_⟩
          simp only [advance, append_cancel_left_eq, List.cons.injEq, took.injEq, and_true] at same
          obtain ⟨rfl, rfl⟩ := same
          cases found.symm.trans foundOther
          obtain ⟨inside, ordered⟩ := ahead _ selecting
          rcases mem_cons.mp inside with rfl | rest
          · exact le_refl _
          · exact (pairwise_cons.mp ordered).1 record rest
      | idled selecting live =>
          refine ⟨fun same => ?_, by simp [RelayWorld.finish]⟩
          simp only [RelayWorld.finish, append_cancel_left_eq, List.cons.injEq,
            idle.injEq, and_true] at same
          subst same
          cases found.symm.trans foundOther
          exact absurd (ahead _ selecting).1 not_mem_nil
      | _ => simp [advance, RelayWorld.finish]

end Passing

/-! ## Coming up again -/

/-- The event is a take of the row. -/
def RelayEvent.takes (id : Nat) : RelayEvent → Bool
  | .took _ record => decide (record.id = id)
  | _ => false

/-- An attempt at the row failed or was broken off. -/
def RelayEvent.setsBack (id : Nat) : RelayEvent → Bool
  | .settled _ record .failed => decide (record.id = id)
  | .broke _ (some record) => decide (record.id = id)
  | _ => false

def Waits (rows : List SegmentMembershipOutbox) (id : Nat) : Prop :=
  ∀ row ∈ rows, row.record.id = id → row.waiting = true

structure Turns (world : RelayWorld) (id : Nat) : Prop where
  bounded : world.journal.countP (RelayEvent.takes id) ≤
    world.journal.countP (RelayEvent.setsBack id) + 1
  spare : Free world.calls id → Waits world.rows id →
    world.journal.countP (RelayEvent.takes id) ≤ world.journal.countP (RelayEvent.setsBack id)

theorem Turns.step (turns : Turns world id)
    {events : List RelayEvent} (journal : after.journal = world.journal ++ events)
    (quiet : events.countP (takes id) = 0)
    (spare : Free after.calls id → Waits after.rows id →
      (Free world.calls id ∧ Waits world.rows id) ∨ 1 ≤ events.countP (setsBack id)) :
    Turns after id := by
  have bounded := turns.bounded
  constructor
  · rw [journal, countP_append, countP_append, quiet]
    omega
  · intro free waits
    rw [journal, countP_append, countP_append, quiet]
    rcases spare free waits with ⟨before, waited⟩ | again
    · have level := turns.spare before waited
      omega
    · omega

/-- A worker has one call at a time. -/
def OneCallEach (calls : List (Session RelayCall)) : Prop := (calls.map Session.pid).Nodup

theorem OneCallEach.drop (once : OneCallEach calls)
    (worker : Nat) : OneCallEach (Session.drop calls worker) :=
  once.sublist (filter_sublist.map _)

theorem OneCallEach.replace (once : OneCallEach calls)
    (worker : Nat) (next : RelayCall) : OneCallEach (Session.replace calls worker next) := by
  refine nodup_cons.mpr ⟨fun mem => ?_, once.drop worker⟩
  obtain ⟨session, inside, same⟩ := mem_map.mp mem
  exact (mem_drop.mp inside).2 same

theorem OneCallEach.next {step : RelayStep}
    (once : OneCallEach world.calls) (taken : (membershipRelay host).step world step after) :
    OneCallEach after.calls := by
  cases next_of_step taken with
  | appended appendable => exact once
  | began absent => exact once.replace ..
  | moved mine found moved =>
      cases moved with
      | idled | committed | crashed => exact once.drop _
      | _ => exact once.replace ..

/-- A row that nobody holds once a call is left out was free, unless that call held it. -/
theorem free_of_drop (once : OneCallEach calls) (found : Session.find calls worker = some call)
    (unheld : call.lock ≠ some id) (free : Free (Session.drop calls worker) id) : Free calls id := by
  intro session mem
  by_cases mine : session.pid = worker
  · have same : session = ⟨worker, call⟩ :=
      inj_on_of_nodup_map once mem (find_mem found) mine
    exact same ▸ unheld
  · exact free session (mem_drop.mpr ⟨mem, mine⟩)

theorem free_of_replace {next : RelayCall}
    (free : Free (Session.replace calls worker next) id) : Free (Session.drop calls worker) id :=
  fun session mem => free session (mem_cons_of_mem _ mem)

theorem setsBack_of_lock (worker : Nat) (held : call.lock = some id) :
    setsBack id (.broke worker call.stage.record?) = true := by
  rw [lock] at held
  split at held
  · obtain ⟨record, stage, same⟩ := Option.map_eq_some_iff.mp held
    rw [stage]
    exact decide_eq_true same
  · cases held

theorem Turns.moved {step : RelayStep} (turns : Turns world id) (inv : RelayInv host world)
    (once : OneCallEach world.calls) (found : Session.find world.calls worker = some call)
    (moved : RelayMoved host world worker call step after) : Turns after id := by
  -- a call that keeps its lock leaves the row as free as it was
  have kept : ∀ {next : RelayCall} {events : List RelayEvent}, next.lock = call.lock →
      events.countP (takes id) = 0 → Turns (world.advance worker next events) id := by
    intro next events same quiet
    refine turns.step rfl quiet fun free waits => .inl ⟨?_, waits⟩
    have unheld : call.lock ≠ some id := same ▸ free ⟨worker, next⟩ (mem_replace.mpr (.inl rfl))
    exact free_of_drop once found unheld (free_of_replace free)
  -- a call that gives up its lock sets the row back
  have given : ∀ {event : RelayEvent}, event.takes id = false →
      (call.lock = some id → event.setsBack id = true) →
        ∀ {later : RelayWorld}, later.rows = world.rows → later.journal = world.journal ++ [event] →
          (Free later.calls id → Free (Session.drop world.calls worker) id) → Turns later id := by
    intro event quiet back later rows journal calls
    refine turns.step journal (by simp [quiet]) fun free waits => ?_
    by_cases held : call.lock = some id
    · exact .inr (by simp [back held])
    · exact .inl ⟨free_of_drop once found held (calls free), rows ▸ waits⟩
  cases moved with
  | skipped selecting held => exact kept (by simp [lock, selecting, record?]) rfl
  | @took record ahead _ selecting live takeable =>
      by_cases same : record.id = id
      · subst same
        obtain ⟨unheld, row, hit, isDue⟩ := RelayInv.of_takeable takeable
        have idle : Free world.calls record.id := by
          refine free_of_drop once found (by simp [lock, selecting, record?]) ?_
          intro session mem
          obtain ⟨present, other⟩ := mem_drop.mp mem
          exact unheld session present other
        have waits : Waits world.rows record.id := by
          intro other mem same
          rw [due, Bool.and_eq_true] at isDue
          exact Table.eq_of_key_eq inv.distinct mem (Table.lookup_mem hit)
            (same.trans (Table.lookup_key hit).symm) ▸ isDue.1
        have level := turns.spare idle waits
        constructor
        · simp only [advance, countP_append]
          simp [RelayEvent.takes, RelayEvent.setsBack]
          omega
        · intro free
          exact absurd (by simp [lock, live, record?])
            (free ⟨worker, _⟩ (mem_replace.mpr (.inl rfl)))
      · refine turns.step rfl (by simp [RelayEvent.takes, same]) fun free waits => .inl ⟨?_, waits⟩
        exact free_of_drop once found (by simp [lock, selecting, record?])
          (free_of_replace free)
  | idled selecting live =>
      refine given rfl ?_ rfl rfl fun free => free
      simp [lock, selecting, record?]
  | composed stage live valid | refused stage live invalid | sent stage | acknowledged stage
  | failed stage => exact kept (by simp [lock, stage, record?]) rfl
  | @committed record verdict _ settling live =>
      have locked : call.lock = some record.id := by
        simp [lock, live, settling, record?]
      refine turns.step rfl rfl fun free waits => ?_
      by_cases same : record.id = id
      · subst same
        refine .inr ?_
        have sound := inv.sound _ (find_mem found)
        rw [settling] at sound
        obtain ⟨row, mem, rfl⟩ := sound.1.stored
        have settled := waits (row.settle host call.now verdict)
          (Table.mem_update.mpr ⟨row, mem, by rw [if_pos rfl]⟩) (by rw [settle_record])
        rw [settle_waiting, decide_eq_true_eq] at settled
        simp [settled, setsBack]
      · refine .inl ⟨free_of_drop once found (by simp [locked, same]) free, fun row mem equal => ?_⟩
        refine waits row (Table.mem_update.mpr ⟨row, mem, ?_⟩) equal
        rw [if_neg]
        rintro other
        exact same (other.symm.trans equal)
  | lapsed live =>
      exact given rfl (setsBack_of_lock worker) rfl rfl free_of_replace
  | crashed =>
      refine given rfl (fun held => ?_) rfl rfl fun free => free
      have live : call.live = true := by
        by_contra lapsed
        simp [lock, lapsed] at held
      rw [if_pos live]
      exact setsBack_of_lock worker held

theorem Turns.next {step : RelayStep}
    (turns : Turns world id) (inv : RelayInv host world) (once : OneCallEach world.calls)
    (taken : (membershipRelay host).step world step after) : Turns after id := by
  cases next_of_step taken with
  | @appended record availableAt appendable =>
      refine turns.step (append_nil _).symm rfl fun free waits => .inl ⟨free, ?_⟩
      exact fun row mem => waits row (mem_append_left _ mem)
  | @began worker now absent =>
      refine turns.step rfl rfl fun free waits => .inl ⟨fun session mem => ?_, waits⟩
      have other : session.pid ≠ worker := by
        rintro rfl
        have missing := find?_eq_none.mp (Option.map_eq_none_iff.mp absent) session mem
        simp at missing
      exact free session (mem_replace.mpr (.inr ⟨mem, other⟩))
  | moved mine found moved => exact turns.moved inv once found moved

theorem turns (reachable : (membershipRelay host).Reachable world) (id : Nat) : Turns world id := by
  have initially : ∀ start, (membershipRelay host).init start →
      RelayInv host start ∧ OneCallEach start.calls ∧ Turns start id := by
    intro start fresh
    obtain rfl : start = .initial := fresh
    exact ⟨relayInv_initial host, nodup_nil, Nat.zero_le _, fun _ _ => Nat.le_refl _⟩
  have preserved : ∀ source label target,
      (RelayInv host source ∧ OneCallEach source.calls ∧ Turns source id) →
        (membershipRelay host).step source label target →
          RelayInv host target ∧ OneCallEach target.calls ∧ Turns target id :=
    fun _ _ _ held taken =>
      ⟨held.1.next taken, held.2.1.next taken, held.2.2.next held.1 held.2.1 taken⟩
  exact (reachable.invariant initially preserved).2.2

end DContact.Customer360

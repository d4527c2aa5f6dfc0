import DContact.Router.FinishedMoves

/-!
# Rules for calls that are over

The condition under which a call that is over stays so and nobody is left reserved for it, and what
each request then leaves a transaction with.
-/

namespace DContact.Router

open Lib List InteractionWrite
open Governance (Instant)

/-- An update finds the call as it was read, as far as it rests on that; and an entry about a call is
not dated before those about it that its transaction can see of the agent. -/
def asReadRequest (store : RouterStore) (pid : Nat) (tick : RouterTick) (request : RouterRequest) :
    Bool :=
  (store.inside pid).all fun work =>
    match request with
    | .update (.hangupWaiting read endedAt) =>
        ((store.calls work).find? fun row => row.id == read.id).any
          (InteractionWrite.hangupWaiting read endedAt).asRead
    | .update write =>
        ((store.calls work).find? fun row => row.id == write.id).all fun row =>
          !write.matches_ row || write.asRead row
    | .logState userId _ reason _ =>
        (store.log work).all fun other => other.userId != userId || reason.about.isNone ||
          other.about != reason.about || decide (other.startedAt ≤ tick.now)
    | _ => true

/-- A hang-up that was processed while the call waited or was offered has left it abandoned. -/
def HungUp : RouterCall → RouterAnswer → RouterStore → Prop
  | .handle event, .routed result, store => event.type = .hangup →
      result.status = .queued ∨ result.status = .assigned ∨ result.status = .abandoned →
      ∃ row ∈ store.interactions, row.id = result.interactionId ∧
        row.externalId = event.callUuid ∧ row.state = .abandoned
  | _, _, _ => True

theorem HungUp.kept {before after : RouterStore} {call : RouterCall} {result : RouterAnswer}
    (rows : CallsTraced before after) (hungUp : HungUp call result before) : HungUp call result after := by
  cases call with
  | handle event =>
      cases result with
      | routed result =>
          intro hangup status
          obtain ⟨row, mem, id, externalId, abandoned⟩ := hungUp hangup status
          obtain ⟨later, inside, traces⟩ := rows row mem
          refine ⟨later, inside, traces.id.trans id, traces.externalId.trans externalId, ?_⟩
          exact (traces.final (by rw [abandoned]; rfl)).trans abandoned
      | due work => exact trivial
  | _ => exact trivial

def callsDesk : Desk RouterCall RouterAnswer where
  Inv := Orderly
  Kept := RowsKept
  asks := asReadRequest
  Done := HungUp
  kept_refl := .refl
  kept_trans _ _ _ _ := .trans
  kept_inside _ _ _ kept := kept.inside
  kept_done _ _ _ _ _ kept := HungUp.kept kept.rows
  begun _ _ orderly := ⟨orderly.begun, fun _ differs =>
    .untouched (inside_working_of_ne differs) rfl rfl⟩
  rolledBack _ _ orderly := ⟨orderly.rolledBack, fun _ differs =>
    .untouched (inside_rollback_of_ne differs) rfl rfl⟩

variable {store : RouterStore} {tick : RouterTick} {work : RouterTransaction}
  {write : InteractionWrite} {id userId : String} {state : AgentState} {reason : StateReason}
  {endedAt : Option Instant}

section Rules

variable {host : RouterHost} {program : RouterCall → RouterProgram RouterAnswer} {pid : Nat}
  {world : RouterWorld RouterCall RouterAnswer}
  {fact : List AgentStateLog → List Interaction → Prop}

abbrev Keeps {γ : Type} (host : RouterHost) (program : RouterCall → RouterProgram RouterAnswer)
    (pid : Nat) (post : γ → RouterStore → Prop) (body : RouterProgram γ)
    (world : RouterWorld RouterCall RouterAnswer) : Prop :=
  (callsDesk.discipline host program).Ensures pid (fun value after => post value after.store) body
    world

abbrev Knows (pid : Nat) (fact : List AgentStateLog → List Interaction → Prop) (store : RouterStore) :
    Prop :=
  Desk.Inside pid (fun store work => fact (store.log work) work.written) store

theorem Steady.stable (steady : Steady fact) :
    callsDesk.Stable fun store work => fact (store.log work) work.written :=
  fun _ _ _ _ kept mine known => RowsKept.steady kept mine steady known

variable {request : RouterRequest} {known : RouterStore → RouterTransaction → Prop}

theorem Orderly.locking
    (calls : List Interaction → Prop) (orderly : Orderly store) (mine : store.inside pid = some work)
    (after : RouterTransaction) (written : after.written = work.written)
    (logged : after.logged = work.logged)
    (known : fact (store.log work) work.written ∧ calls (store.calls work)) :
    callsDesk.Moves pid store (store.working pid after) ∧
      Desk.Inside pid (fun store work => fact (store.log work) work.written ∧
        calls (store.calls work)) (store.working pid after) := by
  refine ⟨⟨orderly.locked mine written logged, fun other differs =>
    .untouched (inside_working_of_ne differs) rfl rfl⟩, after, inside_working, ?_⟩
  show fact (store.states ++ after.logged) after.written ∧
    calls (Versions.overlay Interaction.id after.written store.interactions)
  rw [logged, written]
  exact known

theorem keeps_lockAgent {interactionId : String} {candidates : List AvailableAgent}
    (calls : List Interaction → Prop) (steady : Steady fact)
    (stable : callsDesk.Stable fun store work => calls (store.calls work))
    (inside : Desk.Inside pid (fun store work => fact (store.log work) work.written ∧
      calls (store.calls work)) world.store) :
    Keeps host program pid (fun _ => Desk.Inside pid fun store work =>
      fact (store.log work) work.written ∧ calls (store.calls work))
      (ask (.lockAgent interactionId candidates)) world := by
  refine Desk.ensures_ask _ (fun _ => Desk.Inside pid fun store work =>
    fact (store.log work) work.written ∧ calls (store.calls work)) (steady.stable.and stable) inside ?_
  intro store work tick reply after orderly mine known _ answered
  simp only [answer] at answered
  split at answered
  next =>
    cases answered
    exact ⟨.refl orderly, fun _ _ => ⟨work, mine, known⟩⟩
  next agent picked =>
    cases answered
    obtain ⟨moves, knows⟩ :=
      orderly.locking calls mine { work with users := agent.id :: work.users } rfl rfl known
    exact ⟨moves, fun _ _ => knows⟩

theorem keeps_lockEntries {entries : List AgentStateLog} (steady : Steady fact)
    (knows : Knows pid fact world.store) :
    Keeps host program pid (fun _ => Knows pid fact) (ask (.lockEntries entries)) world := by
  refine Desk.ensures_ask _ (fun _ => Knows pid fact) steady.stable knows ?_
  intro store work tick reply after orderly mine known _ answered
  cases answered
  obtain ⟨moves, knows⟩ := orderly.locking (fun _ => True) mine { work with
    entries := (store.freeEntries pid entries).map AgentStateLog.id ++ work.entries } rfl rfl
    ⟨known, trivial⟩
  exact ⟨moves, fun _ _ => knows.mono fun _ holds => holds.1⟩

/-- What an update that has found its call leaves. -/
structure Changed (write : InteractionWrite) (log : List AgentStateLog) (written : List Interaction) :
    Prop where
  owed : Owed write.takes write.id log written
  version : ∃ row, write.matches_ row = true ∧ row.id = write.id ∧ write.apply row ∈ written

variable {row : Interaction}

theorem asRead_of_found (mine : store.inside pid = some work)
    (asked : asReadRequest store pid tick (.update write) = true)
    (found : ((store.calls work).find? fun row => row.id == write.id) = some row)
    (matched : write.matches_ row = true) : write.asRead row = true := by
  simp only [asReadRequest, mine, Option.all_some] at asked
  cases write with
  | hangupWaiting read endedAt =>
      simp only [InteractionWrite.id] at found
      simpa only [found, Option.any_some] using asked
  | _ =>
      simp only [InteractionWrite.id] at found asked
      simpa only [found, Option.all_some, matched, Bool.not_true, Bool.false_or] using asked

/-- An update of a call that is in order. -/
theorem Orderly.changed (orderly : Orderly store) (mine : store.inside pid = some work)
    (found : ((store.calls work).find? fun row => row.id == write.id) = some row)
    (matched : write.matches_ row = true) (free : store.callLocked pid row.id = false)
    (proper : write.Proper) (waits : ∀ agent, write.assignee? = some agent → row.state = .queued) :
    callsDesk.Moves pid store (store.working pid (work.writing (write.apply row))) ∧
      row ∈ store.calls work ∧ row.id = write.id := by
  have mem := mem_of_find?_eq_some found
  refine ⟨⟨orderly.written mine mem free (write.traces_apply matched proper waits),
    fun other differs => .untouched (inside_working_of_ne differs) rfl rfl⟩, mem, ?_⟩
  exact beq_iff_eq.mp (find?_some found :)

/-- An update of a call that was there before, by one whose calls are whole. -/
theorem Orderly.updated (orderly : Orderly store) (mine : store.inside pid = some work)
    (whole : Whole (store.log work) work.written)
    (asked : asReadRequest store pid tick (.update write) = true)
    (found : ((store.calls work).find? fun row => row.id == write.id) = some row)
    (matched : write.matches_ row = true) (free : store.callLocked pid row.id = false)
    (proper : write.Proper) (older : write.creates = false) :
    callsDesk.Moves pid store (store.working pid (work.writing (write.apply row))) ∧
      Knows pid (Changed write) (store.working pid (work.writing (write.apply row))) := by
  have asRead := asRead_of_found mine asked found matched
  have waits : ∀ agent, write.assignee? = some agent → row.state = .queued :=
    fun _ => write.waits_of_assigns matched asRead older
  obtain ⟨moves, mem, same⟩ := orderly.changed mine found matched free proper waits
  refine ⟨moves, _, inside_working, ⟨?_, row, matched, same, ?_⟩⟩
  · rw [← same]
    show Owed write.takes row.id (store.log work) (work.writing (write.apply row)).written
    refine Orderly.owed_written (write.apply_id row) ?_ ?_
    · exact fun other inside _ agent offered => whole other inside agent offered
    · exact fun agent offered => write.holds_apply matched asRead waits
        (orderly.holds_of_offered mine whole mem offered)
  · exact Versions.mem_overlay.mpr (.inl mem_cons_self)

/-- The rule for an update of a call that was there before. -/
theorem keeps_change (proper : write.Proper) (older : write.creates = false)
    (knows : Knows pid Whole world.store) :
    Keeps host program pid (fun changed store => Knows pid (fun log written =>
      if changed = true then Changed write log written else Whole log written) store)
      (change write) world := by
  refine Desk.ensures_ask (.update write) (fun (changed : Bool) store =>
    Knows pid (fun log written =>
      if changed = true then Changed write log written else Whole log written) store)
    steady_whole.stable knows ?_
  intro store work tick reply after orderly mine whole asked answered
  rcases update_cases answered with ⟨rfl, rfl, -⟩ | ⟨row, found, matched, free, rfl, rfl⟩ | ⟨error, rfl, rfl⟩
  · refine ⟨.refl orderly, ?_⟩
    rintro value ⟨⟩
    exact ⟨work, mine, whole⟩
  · obtain ⟨moves, known⟩ := orderly.updated mine whole asked found matched free proper older
    refine ⟨moves, ?_⟩
    rintro value ⟨⟩
    exact known
  · exact ⟨.rollback orderly, nofun⟩

/-- The rule for the update that gives a new call to its agent. -/
theorem keeps_assignCreated {offer : Offer}
    (knows : Knows pid (fun log written => Owed (some offer.agentId) id log written ∧
      Drafted id written) world.store) :
    Keeps host program pid (fun _ => Knows pid Whole) (change (.assignCreated id offer)) world := by
  refine Desk.ensures_ask (.update (.assignCreated id offer))
    (fun _ => Knows pid Whole) ((steady_owed _ _).and steady_rows).stable knows ?_
  rintro store work tick reply after orderly mine ⟨owed, draft, drafted, same, queued⟩ - answered
  have seen : draft ∈ store.calls work := mem_calls.mpr (.inl drafted)
  have updated : store.update host pid work (.assignCreated id offer) = some (reply, after) := answered
  rcases update_cases updated with ⟨rfl, rfl, absent⟩ | ⟨row, found, matched, free, rfl, rfl⟩ |
    ⟨error, rfl, rfl⟩
  · cases found : (after.calls work).find? fun row => row.id == id with
    | none =>
        have missing := find?_eq_none.mp found draft seen
        simp only [same, beq_self_eq_true, not_true_eq_false] at missing
    | some row => cases absent row found
  · have mem := mem_of_find?_eq_some found
    have equal : row.id = id := beq_iff_eq.mp (find?_some found :)
    cases orderly.same_row mine mem seen (equal.trans same.symm)
    obtain ⟨moves, -, -⟩ := orderly.changed mine found matched free trivial fun _ _ => queued
    refine ⟨moves, fun _ _ => ⟨_, inside_working, ?_⟩⟩
    show Whole (store.log work)
      (work.writing ((assignCreated id offer).apply draft)).written
    have others : ∀ other ∈ work.written, other.id ≠ draft.id → ∀ agent,
        OfferedIn (store.log work) agent other.id → other.Holds agent :=
      fun other inside differs agent offered =>
        (owed.others other inside agent offered).resolve_right fun both =>
          differs (both.2.trans same.symm)
    have holds : ∀ agent, OfferedIn (store.log work) agent draft.id →
        ((assignCreated id offer).apply draft).Holds agent ∨ none = some agent := by
      intro agent offered
      rcases owed.others draft drafted agent offered with holds | ⟨given, -⟩
      · exact absurd queued holds.waits
      · exact .inl ⟨given, nofun, nofun⟩
    have owed : Owed none draft.id (store.log work)
        (work.writing ((assignCreated id offer).apply draft)).written :=
      Orderly.owed_written rfl others holds
    exact owed.whole
  · exact ⟨.rollback orderly, nofun⟩

def Sees (holds : Interaction → Prop) (calls : List Interaction) : Prop := ∃ row ∈ calls, holds row

/-- What is known of a call holds of its later versions. -/
def Lasting (holds : Interaction → Prop) : Prop :=
  ∀ row later, holds row → Traces row later → holds later

theorem Lasting.stable {holds : Interaction → Prop} (lasting : Lasting holds) :
    callsDesk.Stable fun store work => Sees holds (store.calls work) := by
  rintro pid before after work kept mine ⟨row, mem, known⟩
  rcases mem_calls.mp mem with own | ⟨old, uncovered⟩
  · exact ⟨row, mem_calls.mpr (.inl own), known⟩
  · obtain ⟨later, inside, traces⟩ := kept.rows row old
    refine ⟨later, mem_calls.mpr (.inr ⟨inside, fun covers => uncovered ?_⟩),
      lasting row later known traces⟩
    exact covers.congr traces.id

/-- The call as it was read, or a later version of it. -/
theorem lasting_traces (existing : Interaction) : Lasting (Traces existing) :=
  fun _ _ before after => before.trans after

structure Gone (existing row : Interaction) : Prop where
  id : row.id = existing.id
  externalId : row.externalId = existing.externalId
  abandoned : row.state = .abandoned

theorem lasting_gone (existing : Interaction) : Lasting (Gone existing) :=
  fun _ _ gone traces => ⟨traces.id.trans gone.id, traces.externalId.trans gone.externalId,
    (traces.final (by rw [gone.abandoned]; rfl)).trans gone.abandoned⟩

variable {existing : Interaction}

/-- The rule for the hang-up of a call that waits or is offered: it is not missed. -/
theorem keeps_hangup {endedAt : Instant}
    (waiting : existing.state = .queued ∨ existing.state = .assigned)
    (inside : Desk.Inside pid (fun store work => Whole (store.log work) work.written ∧
      Sees (Traces existing) (store.calls work)) world.store) :
    Keeps host program pid (fun changed store => changed = true ∧
      Desk.Inside pid (fun store work =>
        Owed existing.agentId existing.id (store.log work) work.written ∧
        Sees (Gone existing) (store.calls work)) store)
      (change (.hangupWaiting existing endedAt)) world := by
  refine Desk.ensures_ask (.update (.hangupWaiting existing endedAt))
    (fun (changed : Bool) store => changed = true ∧
      Desk.Inside pid (fun store work =>
        Owed existing.agentId existing.id (store.log work) work.written ∧
        Sees (Gone existing) (store.calls work)) store)
    (steady_whole.stable.and (lasting_traces existing).stable) inside ?_
  rintro store work tick reply after orderly mine ⟨whole, seen, inSight, traces⟩ asked answered
  have current := asked
  simp only [callsDesk, asReadRequest, mine, Option.all_some, Option.any_eq_true] at current
  obtain ⟨row, found, asRead⟩ := current
  have matched : (InteractionWrite.hangupWaiting existing endedAt).matches_ row = true := by
    simp only [InteractionWrite.asRead, Bool.and_eq_true] at asRead
    exact asRead.1
  have updated : store.update host pid work (.hangupWaiting existing endedAt) = some (reply, after) :=
    answered
  rcases update_cases updated with ⟨rfl, rfl, absent⟩ | ⟨other, again, _, free, rfl, rfl⟩ |
    ⟨error, rfl, rfl⟩
  · rw [absent row found] at matched
    cases matched
  · cases again.symm.trans found
    have waits : ∀ agent, (InteractionWrite.hangupWaiting existing endedAt).assignee? = some agent →
        row.state = .queued := by
      intro agent assigned
      cases assigned
    obtain ⟨moves, mem, same⟩ := orderly.changed mine again matched free waiting waits
    cases orderly.same_row mine mem inSight (same.trans traces.id.symm)
    refine ⟨moves, ?_⟩
    rintro value ⟨⟩
    refine ⟨rfl, _, inside_working, ?_, _, mem_calls_writing.mpr (.inl rfl), traces.id,
      traces.externalId, rfl⟩
    rw [← traces.id]
    show Owed existing.agentId seen.id (store.log work)
      (work.writing ((InteractionWrite.hangupWaiting existing endedAt).apply seen)).written
    refine Orderly.owed_written rfl ?_ ?_
    · exact fun other inside _ agent offered => whole other inside agent offered
    · exact fun agent offered => InteractionWrite.holds_apply matched asRead waits
        (orderly.holds_of_offered mine whole mem offered)
  · exact ⟨.rollback orderly, by simp⟩

/-- The rule for an update whose only condition is the identifier of a call in sight. -/
theorem keeps_unmissed (proper : write.Proper) (older : write.creates = false)
    (same : write.id = existing.id) (always : ∀ row, write.matches_ row = true)
    (inside : Desk.Inside pid (fun store work => Whole (store.log work) work.written ∧
      Sees (Traces existing) (store.calls work)) world.store) :
    Keeps host program pid (fun _ => Knows pid (Changed write)) (change write) world := by
  refine Desk.ensures_ask (.update write) (fun _ => Knows pid (Changed write))
    (steady_whole.stable.and (lasting_traces existing).stable) inside ?_
  rintro store work tick reply after orderly mine ⟨whole, seen, inSight, traces⟩ asked answered
  rcases update_cases answered with ⟨rfl, rfl, absent⟩ | ⟨row, found, matched, free, rfl, rfl⟩ |
    ⟨error, rfl, rfl⟩
  · cases found : (after.calls work).find? fun row => row.id == write.id with
    | none =>
        have missing := find?_eq_none.mp found seen inSight
        simp only [traces.id, same, beq_self_eq_true, not_true_eq_false] at missing
    | some row => cases (always row).symm.trans (absent row found)
  · obtain ⟨moves, known⟩ := orderly.updated mine whole asked found matched free proper older
    exact ⟨moves, fun _ _ => known⟩
  · exact ⟨.rollback orderly, nofun⟩

/-- The rule for reading the call of an event. -/
theorem keeps_findCall {externalId : String} (stable : callsDesk.Stable known)
    (inside : Desk.Inside pid known world.store) :
    Keeps host program pid (fun found store => Desk.Inside pid known store ∧
      ∀ row, found = some row → row.externalId = externalId ∧
        Desk.Inside pid (fun store work => known store work ∧ Sees (Traces row) (store.calls work))
          store) (ask (.findCall externalId)) world := by
  refine Desk.ensures_ask (.findCall externalId)
    (fun (found : Option Interaction) store => Desk.Inside pid known store ∧
      ∀ row, found = some row → row.externalId = externalId ∧
        Desk.Inside pid (fun store work => known store work ∧ Sees (Traces row) (store.calls work))
          store) stable inside ?_
  intro store work tick reply after orderly mine holds _ answered
  cases answered
  refine ⟨.refl orderly, ?_⟩
  rintro value ⟨⟩
  refine ⟨⟨work, mine, holds⟩, fun row found => ?_⟩
  exact ⟨beq_iff_eq.mp (find?_some found :), work, mine, holds, row,
    mem_of_find?_eq_some found, .refl row⟩

theorem keeps_findInteraction (stable : callsDesk.Stable known)
    (inside : Desk.Inside pid known world.store) :
    Keeps host program pid (fun found store => (∀ row, found = some row → row.id = id) ∧
      Desk.Inside pid known store) (ask (.findInteraction id)) world := by
  refine Desk.ensures_ask (.findInteraction id)
    (fun (found : Option Interaction) store => (∀ row, found = some row → row.id = id) ∧
      Desk.Inside pid known store) stable inside ?_
  intro store work tick reply after orderly mine holds _ answered
  cases answered
  refine ⟨.refl orderly, ?_⟩
  rintro value ⟨⟩
  exact ⟨fun row found => beq_iff_eq.mp (find?_some found :), work, mine, holds⟩

def loggedEntry (store : RouterStore) (tick : RouterTick) (userId : String) (state : AgentState)
    (reason : StateReason) (endedAt : Option Instant) : AgentStateLog :=
  ⟨store.nextEntry, userId, state, reason, tick.now, endedAt⟩

/-- The entry comes after those of the agent about the same call. -/
theorem Orderly.last (orderly : Orderly store) (mine : store.inside pid = some work)
    (about : reason.about = some id)
    (asked : asReadRequest store pid tick (.logState userId state reason endedAt) = true) :
    ∀ other ∈ store.log work, other.userId = userId → other.about = reason.about →
      other.before (loggedEntry store tick userId state reason endedAt) := by
  intro other mem user told
  simp only [asReadRequest, mine, Option.all_some, all_eq_true, Bool.or_eq_true, bne_iff_ne,
    Option.isNone_iff_eq_none, decide_eq_true_eq, about, reduceCtorEq, or_false] at asked
  have dated : other.startedAt ≤ tick.now := by
    rcases asked other mem with (differs | differs) | dated
    · exact absurd user differs
    · exact absurd (told.trans about) differs
    · exact dated
  have earlier : other.id < store.nextEntry := orderly.below_log mine mem
  show other.startedAt < tick.now ∨ (other.startedAt = tick.now ∧ other.id < store.nextEntry)
  rcases Int.lt_or_eq_of_le dated with before | same
  · exact .inl before
  · exact .inr ⟨same, earlier⟩

variable {before after : List AgentStateLog → List Interaction → Prop}

section
variable (steady : Steady before)
    (touched : ∀ log written id, before log written → reason.about = some id →
      ∃ row ∈ written, row.id = id)
    (leaves : ∀ (store : RouterStore) (work : RouterTransaction) (entry : AgentStateLog),
      entry.userId = userId → entry.state = state → entry.about = reason.about →
      (work.written.map Interaction.id).Nodup →
      (∀ other ∈ store.log work, entry.about.isSome = true → other.userId = entry.userId →
        other.about = entry.about → other.before entry) →
      before (store.log work) work.written → after (store.log (work.logging entry)) work.written)
include steady touched leaves

theorem keeps_log (calls : List Interaction → Prop)
    (stable : callsDesk.Stable fun store work => calls (store.calls work))
    (inside : Desk.Inside pid (fun store work => before (store.log work) work.written ∧
      calls (store.calls work)) world.store) :
    Keeps host program pid (fun _ => Desk.Inside pid fun store work =>
      after (store.log work) work.written ∧ calls (store.calls work))
      (ask (.logState userId state reason endedAt)) world := by
  refine Desk.ensures_ask (.logState userId state reason endedAt)
    (fun _ => Desk.Inside pid fun store work =>
      after (store.log work) work.written ∧ calls (store.calls work))
    (steady.stable.and stable) inside ?_
  rintro store work tick reply later orderly mine ⟨known, seen⟩ asked answered
  cases answered
  let entry := loggedEntry store tick userId state reason endedAt
  have kept : Orderly { store.working pid (work.logging entry) with
      nextEntry := store.nextEntry + 1 } :=
    orderly.logged mine rfl fun id about => touched _ _ id known about
  refine ⟨⟨kept, fun other differs => .untouched (inside_working_of_ne differs) rfl rfl⟩, fun _ _ =>
    ⟨_, inside_working, ?_, seen⟩⟩
  refine leaves store work entry rfl rfl rfl
    (orderly.works pid work mine).keyed ?_ known
  intro other mem about user told
  obtain ⟨id, equal⟩ := Option.isSome_iff_exists.mp about
  exact orderly.last mine equal asked other mem user told

/-- The same, where nothing has to be known of the calls. -/
theorem keeps_entry (knows : Knows pid before world.store) :
    Keeps host program pid (fun _ => Knows pid after) (ask (.logState userId state reason endedAt))
      world := by
  have logs : Keeps host program pid (fun _ => Desk.Inside pid fun store work =>
      after (store.log work) work.written ∧ True) (ask (.logState userId state reason endedAt)) world :=
    keeps_log steady touched leaves (fun _ => True) Desk.stable_const
      (knows.mono fun _ known => ⟨known, trivial⟩)
  exact logs.mono fun _ _ known => known.mono fun _ holds => holds.1

end

/-- An entry that takes an agent off a call. -/
theorem keeps_log_off (calls : List Interaction → Prop) (free : state ≠ .reserved)
    (about : reason.about = some id) (stable : callsDesk.Stable fun store work => calls (store.calls work))
    (inside : Desk.Inside pid (fun store work =>
      Owed (some userId) id (store.log work) work.written ∧ calls (store.calls work)) world.store) :
    Keeps host program pid (fun _ => Desk.Inside pid fun store work =>
      Whole (store.log work) work.written ∧ calls (store.calls work))
      (ask (.logState userId state reason endedAt)) world := by
  refine keeps_log (steady_owed (some userId) id) ?_ ?_ calls stable inside
  · rintro log written other owed told
    cases told.symm.trans about
    exact owed.touched
  · rintro store work entry rfl rfl same - last owed
    refine whole_logging_off free (fun other mem user told => ?_) (same.trans about) owed
    exact last other mem (by rw [same, about]; rfl) user told

/-- The same, where nothing else has to be known. -/
theorem keeps_off (free : state ≠ .reserved) (about : reason.about = some id)
    (knows : Knows pid (Owed (some userId) id) world.store) :
    Keeps host program pid (fun _ => Knows pid Whole)
      (ask (.logState userId state reason endedAt)) world := by
  have logs : Keeps host program pid (fun _ => Desk.Inside pid fun store work =>
      Whole (store.log work) work.written ∧ True) (ask (.logState userId state reason endedAt)) world :=
    keeps_log_off (fun _ => True) free about Desk.stable_const
      (knows.mono fun _ owed => ⟨owed, trivial⟩)
  exact logs.mono fun _ _ known => known.mono fun _ holds => holds.1

/-- The reservation of an agent to whom a call was given. -/
theorem keeps_reserve
    (knows : Knows pid (fun log written => Whole log written ∧ Given userId id written) world.store) :
    Keeps host program pid (fun _ => Knows pid Whole)
      (ask (.logState userId .reserved (.interaction id) endedAt)) world := by
  refine keeps_entry (steady_whole.and steady_rows) ?_ ?_ knows
  · rintro log written other ⟨-, given⟩ ⟨⟩
    exact given.touched
  · rintro store work entry rfl - same keyed - ⟨whole, given⟩
    exact whole_logging_given keyed given same whole

/-- The reservation of an agent to whom a call will be given. -/
theorem keeps_promise
    (knows : Knows pid (fun log written => Whole log written ∧ Drafted id written) world.store) :
    Keeps host program pid (fun _ => Knows pid fun log written =>
      Owed (some userId) id log written ∧ Drafted id written)
      (ask (.logState userId .reserved (.interaction id) endedAt)) world := by
  refine keeps_entry (steady_whole.and steady_rows) ?_ ?_ knows
  · rintro log written other ⟨-, drafted⟩ ⟨⟩
    exact drafted.touched
  · rintro store work entry rfl - same - - ⟨whole, drafted⟩
    exact ⟨owed_logging same drafted.touched whole, drafted⟩

/-- An entry that is about no call. -/
theorem keeps_log_aside (aside : reason.about = none) (knows : Knows pid Whole world.store) :
    Keeps host program pid (fun _ => Knows pid Whole)
      (ask (.logState userId state reason endedAt)) world := by
  refine keeps_entry steady_whole ?_ ?_ knows
  · rintro log written id - told
    rw [aside] at told
    cases told
  · rintro store work entry - - same - - whole
    exact whole_logging_aside (same.trans aside) whole

theorem keeps_create {draft : CallDraft} (knows : Knows pid Whole world.store) :
    Keeps host program pid (fun created store => ∀ row, created = .ok row →
      Knows pid (fun log written => Whole log written ∧ Drafted row.id written) store)
      (attemptCreate draft) world := by
  refine Desk.ensures_create (fun row store =>
    Knows pid (fun log written => Whole log written ∧ Drafted row.id written) store)
    steady_whole.stable knows ?_
  rintro store work row orderly mine whole fresh state - after rfl
  have kept := Orderly.created orderly mine fresh
  have whole := Orderly.whole_created orderly mine fresh whole
  rw [writing_fresh (orderly.works pid work mine).minted fresh] at kept whole
  exact ⟨⟨kept, fun _ differs => .untouched (inside_working_of_ne differs) rfl rfl⟩, _,
    inside_working, whole, row, mem_append_right _ mem_cons_self, rfl, state⟩

/-- The rule for a commit: what the transaction has seen is there. -/
theorem keeps_commit (calls : List Interaction → Prop)
    (stable : callsDesk.Stable fun store work => calls (store.calls work))
    (inside : Desk.Inside pid (fun store work => Whole (store.log work) work.written ∧
      calls (store.calls work)) world.store) :
    Keeps host program pid (fun _ store => calls store.interactions) (ask .commit) world := by
  refine Desk.ensures_ask .commit (fun _ store => calls store.interactions)
    (steady_whole.stable.and stable) inside ?_
  rintro store work tick reply after orderly mine ⟨whole, seen⟩ - answered
  cases answered
  exact ⟨⟨orderly.committed mine whole, fun other differs => orderly.kept_of_commit mine differs⟩,
    fun _ _ => seen⟩

end Rules

end DContact.Router

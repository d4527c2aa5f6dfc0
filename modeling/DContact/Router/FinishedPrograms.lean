import DContact.Router.FinishedRules
import DContact.Router.RouterWalk

/-!
# The operations and the calls that are over

Every operation of the router updates only calls that still stand as it has read them, and logs about
a call only after it has written it. So whoever is reserved for a call holds it whenever a
transaction commits.
-/

namespace DContact.Router

open Lib Discipline
open Governance (Instant)

section Programs

variable {host : RouterHost} {program : RouterCall → RouterProgram RouterAnswer} {pid : Nat}
  {world : RouterWorld RouterCall RouterAnswer} {existing : Interaction}
  {event : TelephonyCallEvent}

def callsKnow : Phase → RouterStore → RouterTransaction → Prop
  | .sees .nothing | .holding _ .nothing | .settled => fun store work =>
      Whole (store.log work) work.written
  | .sees (.read row) | .holding _ (.read row) => fun store work =>
      Whole (store.log work) work.written ∧ Sees (Traces row) (store.calls work)
  | .sees (.drafted id) | .holding _ (.drafted id) => fun store work =>
      Whole (store.log work) work.written ∧ Drafted id work.written
  | .promised agent id => fun store work =>
      Owed (some agent) id (store.log work) work.written ∧ Drafted id work.written
  | .given agent id => fun store work =>
      Whole (store.log work) work.written ∧ Given agent id work.written
  | .taken agent id | .moved agent id => fun store work =>
      Owed (some agent) id (store.log work) work.written

theorem stable_callsKnow (phase : Phase) : callsDesk.Stable (callsKnow phase) := by
  have sees : ∀ sight, callsDesk.Stable (callsKnow (.sees sight)) := by
    intro sight
    cases sight with
    | nothing => exact steady_whole.stable
    | read row => exact steady_whole.stable.and (lasting_traces row).stable
    | drafted id => exact (steady_whole.and steady_rows).stable
  cases phase with
  | sees sight => exact sees sight
  | holding agent sight => cases sight with
      | nothing => exact sees .nothing
      | read row => exact sees (.read row)
      | drafted id => exact sees (.drafted id)
  | promised agent id => exact ((steady_owed _ _).and steady_rows).stable
  | given agent id => exact (steady_whole.and steady_rows).stable
  | taken agent id | moved agent id => exact (steady_owed _ _).stable
  | settled => exact steady_whole.stable

def callsWalk (host : RouterHost) (program : RouterCall → RouterProgram RouterAnswer) (pid : Nat) :
    Walk host program where
  discipline := callsDesk.discipline host program
  pid := pid
  holds phase := Desk.Inside pid (callsKnow phase)

theorem whole_of_empty {store : RouterStore}
    (begun : Desk.Inside pid (fun _ work => work = .empty) store) : Knows pid Whole store :=
  begun.mono fun work empty => by
    subst empty
    exact List.forall_mem_nil _

theorem calls_lock {sight : Sight} {id : String} {candidates : List AvailableAgent} :
    (callsWalk host program pid).Leads (.sees sight) (ask (.lockAgent id candidates))
      fun found now => now (.sees sight) ∧
        ∀ agent : AvailableAgent, found = some agent → now (.holding agent.id sight) := by
  have steady : ∀ {fact : List AgentStateLog → List Interaction → Prop} {world}, Steady fact →
      Knows pid fact world.store →
      Keeps host program pid (fun _ => Knows pid fact) (ask (.lockAgent id candidates)) world :=
    fun steady known => (keeps_lockAgent (fun _ => True) steady Desk.stable_const
      (known.mono fun _ holds => ⟨holds, trivial⟩)).mono
        fun _ _ known => known.mono fun _ holds => holds.1
  intro world known
  cases sight with
  | nothing => exact (steady steady_whole known).mono fun _ _ known => ⟨known, fun _ _ => known⟩
  | read row =>
      exact (keeps_lockAgent _ steady_whole (lasting_traces row).stable known).mono
        fun _ _ known => ⟨known, fun _ _ => known⟩
  | drafted id =>
      exact (steady (steady_whole.and steady_rows) known).mono
        fun _ _ known => ⟨known, fun _ _ => known⟩

section
variable {write : InteractionWrite} (knows : Knows pid Whole world.store)
include knows

theorem changes (proper : write.Proper) (older : write.creates = false) :
    Keeps host program pid (fun changed store =>
      (changed = false → Knows pid Whole store) ∧
      (changed = true → Knows pid (Changed write) store)) (change write) world := by
  refine (keeps_change proper older knows).mono fun changed later known => ?_
  cases changed with
  | false => exact ⟨fun _ => known, nofun⟩
  | true => exact ⟨nofun, fun _ => known⟩

/-- An update that gives the call to an agent. -/
theorem changes_given {offer : Offer} (gives : write.Gives offer) :
    Keeps host program pid (fun changed store => Desk.Inside pid
      (callsKnow (bif changed then .given offer.agentId write.id else .clear)) store)
      (change write) world := by
  have proper : write.Proper := by cases gives <;> trivial
  have older : write.creates = false := by cases gives <;> rfl
  have nobody : write.takes = none := by cases gives <;> rfl
  have somebody : write.assignee? = some offer.agentId := by cases gives <;> rfl
  refine (changes knows proper older).mono fun changed later known => ?_
  cases changed with
  | false => exact known.1 rfl
  | true =>
      refine (known.2 rfl).mono fun work changed => ?_
      obtain ⟨row, -, same, mem⟩ := changed.version
      have owed := changed.owed
      rw [nobody] at owed
      exact ⟨owed.whole, _, mem, (write.apply_id row).trans same, write.holds_assign somebody⟩

theorem changes_moved (moves : write.Moves) :
    Keeps host program pid (fun changed store => Knows pid Whole store ∧
      (changed = true → ∀ agent, Knows pid (Owed (some agent) write.id) store))
      (change write) world := by
  have proper : write.Proper := by cases moves <;> trivial
  have older : write.creates = false := by cases moves <;> rfl
  have nobody : write.takes = none := by cases moves <;> rfl
  refine (changes knows proper older).mono fun changed later known => ?_
  cases changed with
  | false => exact ⟨known.1 rfl, nofun⟩
  | true =>
      have owed : Knows pid (Owed none write.id) later.store :=
        (known.2 rfl).mono fun _ changed => nobody ▸ changed.owed
      exact ⟨owed.mono fun _ owed => owed.whole, fun _ agent => owed.mono fun _ owed => owed.weaken _⟩

theorem changes_taken {agent : String} (takes : write.Takes agent) :
    Keeps host program pid (fun changed store => Desk.Inside pid
      (callsKnow (bif changed then .taken agent write.id else .clear)) store)
      (change write) world := by
  have proper : write.Proper := by cases takes <;> trivial
  have older : write.creates = false := by cases takes <;> rfl
  have taken : write.takes = none ∨ write.takes = some agent := by
    cases takes <;> first | exact .inr ‹_› | exact .inr rfl | exact .inl rfl
  refine (changes knows proper older).mono fun changed later known => ?_
  cases changed with
  | false => exact known.1 rfl
  | true =>
      refine (known.2 rfl).mono fun work changed => ?_
      have owed := changed.owed
      rcases taken with nobody | taken
      · rw [nobody] at owed
        exact owed.weaken _
      · rw [taken] at owed
        exact owed

theorem releaseExpiredCooldowns_calls {now : Instant} :
    Keeps host program pid (fun _ => Knows pid Whole) (releaseExpiredCooldowns now) world := by
  refine (Desk.ensures_look steady_whole.stable rfl knows).bind fun expired _ whole => ?_
  refine (keeps_lockEntries steady_whole whole).bind fun (locked : List AgentStateLog) _ whole => ?_
  let whole_ : RouterWorld RouterCall RouterAnswer → Prop := fun later => Knows pid Whole later.store
  have each : ∀ entry ∈ locked, ∀ later, whole_ later →
      (callsDesk.discipline host program).Ensures pid (fun _ => whole_)
        (ask (.logState entry.userId .available .offerCooldownElapsed none)) later :=
    fun entry _ later whole => keeps_log_aside rfl whole
  exact (ensures_forEach whole each).bind fun _ _ whole => ensures_pure whole

end

theorem calls_resolve {queueId : String} {attempts : Int} {offer : Option Offer}
    (known : Desk.Inside pid (callsKnow (.sees (.read existing))) world.store) :
    Keeps host program pid
      (fun _ => Knows pid (Changed (.resolve existing.id queueId attempts offer)))
      (change (.resolve existing.id queueId attempts offer)) world :=
  keeps_unmissed trivial rfl rfl (fun _ => rfl) known

theorem callsWalk_rules : (callsWalk host program pid).Rules where
  forgets sight _ known := by
    cases sight with
    | nothing => exact known
    | read row | drafted id => exact Desk.Inside.mono known fun _ holds => holds.1
  settles _ known := known
  clock _ := Desk.ensures_now
  begins _ := Desk.ensures_begin.mono fun _ _ begun => whole_of_empty begun
  commits _ whole := (keeps_commit (fun _ => True) Desk.stable_const
    (Desk.Inside.mono whole fun _ whole => ⟨whole, trivial⟩)).mono fun _ _ _ => trivial
  rollsBack phase _ known := Desk.ensures_rollback (stable_callsKnow phase) known
  looks phase _ looking _ known := Desk.ensures_look (stable_callsKnow phase) looking known
  findsCall _ _ known := (keeps_findCall steady_whole.stable known).mono
    fun _ _ known => ⟨known.1, fun row same => (known.2 row same).2⟩
  locks _ _ _ := calls_lock
  creates _ _ known := keeps_create known
  promises _ _ _ known := keeps_promise known
  assigns _ _ _ known := keeps_assignCreated known
  gives _ _ gives _ known := changes_given known gives
  resolves _ _ _ _ known := (calls_resolve known).mono
    fun _ _ changed => changed.mono fun _ changed => changed.owed.whole
  resolvesFor _ _ _ _ _ known := (calls_resolve known).mono fun _ _ changed =>
    changed.mono fun work changed => by
      obtain ⟨version, -, own, mem⟩ := changed.version
      exact ⟨changed.owed.whole, _, mem, (InteractionWrite.apply_id ..).trans own,
        InteractionWrite.holds_assign rfl⟩
  readsAgain agent id _ known :=
    (keeps_findInteraction (stable_callsKnow (.given agent id)) known).mono fun _ _ known =>
      ⟨known.2, fun row same => known.1 row same ▸ known.2⟩
  reserves _ _ _ known := keeps_reserve known
  moves _ moves _ known := changes_moved known moves
  busies _ _ _ busy _ known :=
    keeps_off (by rcases busy with rfl | rfl <;> exact nofun) rfl known
  takes _ _ takes _ known := changes_taken known takes
  frees _ _ _ _ _ free about _ known := keeps_off free about known
  cools _ _ known := releaseExpiredCooldowns_calls known

theorem keeps_release {agentId : Option String} {interactionId : String}
    (calls : List Interaction → Prop) (stable : callsDesk.Stable fun store work => calls (store.calls work))
    (inside : Desk.Inside pid (fun store work =>
      Owed agentId interactionId (store.log work) work.written ∧ calls (store.calls work))
      world.store) :
    Keeps host program pid (fun _ => Desk.Inside pid fun store work =>
      Whole (store.log work) work.written ∧ calls (store.calls work))
      (release agentId interactionId) world := by
  cases agentId with
  | none => exact ensures_pure (inside.mono fun _ known => ⟨known.1.whole, known.2⟩)
  | some agent => exact keeps_log_off calls nofun rfl stable inside

def SaysGone (callUuid : String) (result : InboundVoiceRoutingResult) (store : RouterStore) : Prop :=
  result.status = .queued ∨ result.status = .assigned ∨ result.status = .abandoned →
    ∃ row ∈ store.interactions, row.id = result.interactionId ∧ row.externalId = callUuid ∧
      row.state = .abandoned

abbrev Reads (pid : Nat) (row : Interaction) (store : RouterStore) : Prop :=
  Desk.Inside pid (callsKnow (.sees (.read row))) store

theorem hangupWaiting_keeps (waiting : existing.state = .queued ∨ existing.state = .assigned)
    (reads : Reads pid existing world.store) :
    Keeps host program pid (SaysGone existing.externalId) (hangupWaiting existing) world := by
  have rules : (callsWalk host program pid).Rules := callsWalk_rules
  unfold hangupWaiting
  refine (rules.reading world reads).bind fun endedAt _ reads => ?_
  refine (keeps_hangup waiting reads).bind fun ended _ known => ?_
  obtain ⟨rfl, inside⟩ := known
  refine (keeps_release _ (lasting_gone existing).stable inside).bind fun _ _ inside => ?_
  refine (keeps_commit _ (lasting_gone existing).stable inside).bind fun _ _ seen => ?_
  refine ensures_pure fun _ => ?_
  obtain ⟨row, mem, gone⟩ := seen
  exact ⟨row, mem, gone.id, gone.externalId, gone.abandoned⟩

/-- A hang-up of a call that is over, or that is not. -/
theorem sayingGone_keeps (reads : Reads pid existing world.store)
    (later : existing.state ≠ .queued ∧ existing.state ≠ .assigned) :
    Keeps host program pid (SaysGone existing.externalId)
      (committing (resultFromInteraction existing)) world := by
  refine (keeps_commit _ (lasting_traces existing).stable reads).bind fun _ _ seen => ?_
  refine ensures_pure fun status => ?_
  obtain ⟨row, mem, traces⟩ := seen
  have abandoned : existing.state = .abandoned :=
    (status.resolve_left later.1).resolve_left later.2
  refine ⟨row, mem, traces.id, traces.externalId, ?_⟩
  exact (traces.final (by rw [abandoned]; rfl)).trans abandoned

/-- A hang-up that says something else. -/
theorem sayingElse_keeps {result : InboundVoiceRoutingResult} {callUuid : String}
    (other : result.status ≠ .queued ∧ result.status ≠ .assigned ∧ result.status ≠ .abandoned)
    (knows : Knows pid Whole world.store) :
    Keeps host program pid (SaysGone callUuid) (committing result) world := by
  have rules : (callsWalk host program pid).Rules := callsWalk_rules
  refine (rules.commits world knows).bind fun _ _ _ => ensures_pure fun status => ?_
  rcases status with queued | assigned | abandoned
  · exact absurd queued other.1
  · exact absurd assigned other.2.1
  · exact absurd abandoned other.2.2

theorem handleHangup_keeps (knows : Knows pid Whole world.store) :
    Keeps host program pid (SaysGone event.callUuid) (handleHangup event) world := by
  have rules : (callsWalk host program pid).Rules := callsWalk_rules
  unfold handleHangup
  refine (keeps_findCall steady_whole.stable knows).bind fun found later known => ?_
  have whole : (callsWalk host program pid).holds .clear later.store := known.1
  refine (rules.finding (fun row => .sees (.read row)) whole fun row same =>
    (known.2 row same).2).bind fun existing later seen => ?_
  obtain ⟨same, reads⟩ := seen
  rw [← (known.2 existing same).1]
  cases state : existing.state with
  | wrapup | completed | abandoned =>
      exact sayingGone_keeps reads (by rw [state]; exact ⟨nofun, nofun⟩)
  | queued => exact hangupWaiting_keeps (.inl state) reads
  | assigned => exact hangupWaiting_keeps (.inr state) reads
  | active =>
      simp only
      split
      · exact rules.abandoning reads
      next agentId _ =>
        refine (rules.reading later (rules.forgets _ _ reads)).bind fun endedAt later known => ?_
        refine (rules.moves _ .hangupActive later known).bind fun ended later known => ?_
        split
        next done =>
          refine (rules.busies agentId existing.id .acw (.inr rfl) later (known.2 done agentId)).bind
            fun _ later whole => ?_
          exact sayingElse_keeps ⟨nofun, nofun, nofun⟩ whole
        next =>
          refine sayingElse_keeps ?_ known.1
          simp only [resultFromInteraction, state]
          exact ⟨nofun, nofun, nofun⟩

end Programs

end DContact.Router

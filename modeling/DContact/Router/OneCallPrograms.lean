import DContact.Router.OneCallRules
import DContact.Router.RouterWalk

/-!
# The operations and their hands

Every operation of the router keeps the agents in one hand each: it gives a call only to an agent
whom it has locked and found vacant, and it frees only an agent from whom it has taken a call, or
whose cooldown it has locked.
-/

namespace DContact.Router

open Lib
open Governance (Instant)

section Programs

variable {host : RouterHost} {program : RouterCall → RouterProgram RouterAnswer} {pid : Nat}

def handsKnow : Phase → RouterStore → RouterTransaction → Prop
  | .sees _ | .moved .. => Calm
  | .holding agent _ => Holding agent
  | .promised agent _ => fun store work => Holding agent store work ∧ Reserved work agent
  | .given agent _ => Owing agent
  | .taken agent _ => CalmWith (· = agent)
  | .settled => fun _ work => Settled work

theorem stable_handsKnow (phase : Phase) : hands.Stable (handsKnow phase) := by
  cases phase with
  | sees sight | moved agent id => exact stable_calm
  | holding agent sight => exact stable_holding agent
  | promised agent id =>
      exact fun pid before after work kept mine held =>
        ⟨stable_holding agent pid before after work kept mine held.1, held.2⟩
  | given agent id => exact stable_owing agent
  | taken agent id => exact stable_calmWith _
  | settled => exact fun _ _ _ _ _ _ settled => settled

def handsWalk (host : RouterHost) (program : RouterCall → RouterProgram RouterAnswer) (pid : Nat) :
    Walk host program where
  discipline := hands.discipline host program
  pid := pid
  holds phase := Desk.Inside pid (handsKnow phase)

theorem releaseExpiredCooldowns_hands {now : Instant} :
    (handsWalk host program pid).Stays .clear (releaseExpiredCooldowns now) := by
  intro world calm
  refine (ensures_look (.scanCooldowns now) stable_calm rfl calm).bind fun expired _ known => ?_
  refine (ensures_lockEntries known).bind fun locked _ known => ?_
  let freed : RouterWorld RouterCall RouterAnswer → Prop := fun later =>
    Desk.Inside pid (CalmWith fun agent => ∃ entry ∈ locked, entry.userId = agent) later.store
  have each : ∀ entry ∈ locked, ∀ later, freed later →
      (hands.discipline host program).Ensures pid (fun _ => freed)
        (ask (.logState entry.userId .available .offerCooldownElapsed none)) later :=
    fun entry mem later known => ensures_log_vacant known ⟨entry, mem, rfl⟩
  refine (Discipline.ensures_forEach known each).bind fun _ _ known => ?_
  exact Discipline.ensures_pure (Desk.Inside.mono known fun _ holds => holds.1)

/-- An update that gives the call to nobody and takes it from nobody in particular. -/
theorem change_leaves {write : InteractionWrite} (nobody : write.assignee? = none) :
    (handsWalk host program pid).Stays .clear (change write) :=
  fun _ calm => (ensures_change nobody calm).mono fun _ _ known => known.mono fun _ holds => holds.1

theorem handsWalk_rules : (handsWalk host program pid).Rules where
  forgets _ _ calm := calm
  settles _ calm := Desk.Inside.mono calm fun _ calm => calm.settled
  clock _ := Desk.ensures_now
  begins _ := Desk.ensures_begin.mono fun _ _ begun => begun.mono fun _ empty => calm_of_empty empty
  commits _ settled := (ensures_commit settled).mono fun _ _ _ => trivial
  rollsBack phase _ known := Desk.ensures_rollback (stable_handsKnow phase) known
  looks phase _ looking _ known := Desk.ensures_look (stable_handsKnow phase) looking known
  findsCall _ _ calm := (Desk.ensures_look stable_calm rfl calm).mono
    fun _ _ calm => ⟨calm, fun _ _ => calm⟩
  locks _ _ _ _ calm := (ensures_lockAgent calm).mono fun _ _ known =>
    ⟨known.mono fun _ holds => holds.1, fun agent same => known.mono fun _ holds => holds.2 agent same⟩
  creates _ _ calm := ensures_create calm
  promises _ _ _ holding := ensures_log_holding holding
  assigns _ _ _ promised := ensures_assign_reserved rfl promised
  gives write offer gives _ holding := by
    have somebody : write.assignee? = some offer.agentId := by cases gives <;> rfl
    refine (ensures_assign somebody holding).mono fun done _ known => ?_
    cases done with
    | true => exact known.mono fun _ holds => holds.1
    | false => exact known.mono fun _ holds => holds.2 rfl
  resolves _ _ _ _ calm := change_leaves rfl _ calm
  resolvesFor _ _ _ _ _ holding :=
    (ensures_assign rfl holding).mono fun _ _ known => known.mono fun _ holds => holds.1
  readsAgain agent _ _ owing := (Desk.ensures_look (stable_owing agent) rfl owing).mono
    fun _ _ owing => ⟨owing, fun _ _ => owing⟩
  reserves _ _ _ owing := ensures_log_owing owing
  moves write moves _ calm := by
    have nobody : write.assignee? = none := by cases moves <;> rfl
    exact (change_leaves nobody _ calm).mono fun _ _ calm => ⟨calm, fun _ _ => calm⟩
  busies _ _ _ busy _ calm := ensures_log_busy calm busy
  takes agent write takes _ calm := by
    have nobody : write.assignee? = none := by cases takes <;> rfl
    have taken : write.releases = some agent := by cases takes <;> first | assumption | rfl
    refine (ensures_change nobody calm).mono fun done _ known => ?_
    cases done with
    | true => exact known.mono fun _ holds => ⟨holds.1, fun _ same => holds.2 _ ⟨rfl, same ▸ taken⟩⟩
    | false => exact known.mono fun _ holds => holds.1
  frees _ _ _ _ _ _ _ _ known :=
    (ensures_log_vacant known rfl).mono fun _ _ known => known.mono fun _ holds => holds.1
  cools _ := releaseExpiredCooldowns_hands

variable {existing : Interaction} {event : TelephonyCallEvent}

theorem hangupWaiting_hands (waiting : existing.state = .queued ∨ existing.state = .assigned)
    (sound : existing.Sound) :
    (handsWalk host program pid).Ends .clear (hangupWaiting existing) := by
  intro world calm
  have rules : (handsWalk host program pid).Rules := handsWalk_rules
  refine (rules.reading world calm).bind fun endedAt _ calm => ?_
  refine (ensures_change rfl calm).bind fun ended later known => ?_
  have calm : (handsWalk host program pid).holds .clear later.store :=
    known.mono fun _ holds => holds.1
  split
  next done =>
    cases offered : existing.agentId with
    | none => exact rules.ending later calm
    | some agent =>
        have taken : (InteractionWrite.hangupWaiting existing endedAt).releases = some agent := by
          rcases waiting with queued | assigned
          · rw [sound queued] at offered
            cases offered
          · simp only [InteractionWrite.releases, assigned, if_true, offered]
        have freed : (handsWalk host program pid).holds (.taken agent existing.id) later.store :=
          known.mono fun _ holds => ⟨holds.1, fun _ same => holds.2 _ ⟨done, same ▸ taken⟩⟩
        exact (rules.releasing later freed).bind fun _ later calm => rules.ending later calm
  next => exact rules.ending later calm

theorem handleHangup_hands : (handsWalk host program pid).Ends .clear (handleHangup event) := by
  intro world calm
  have rules : (handsWalk host program pid).Rules := handsWalk_rules
  unfold handleHangup
  refine (ensures_look (.findCall event.callUuid) stable_calm rfl calm).bind
    fun found later known => ?_
  have calm : (handsWalk host program pid).holds .clear later.store :=
    known.mono fun _ holds => holds.1
  refine (rules.finding (fun _ => .clear) calm fun _ _ => calm).bind
    fun existing later present => ?_
  have sound : existing.Sound := known.elim fun _ inside => inside.2.2 existing present.1
  have calm := present.2
  cases state : existing.state with
  | wrapup | completed | abandoned => exact rules.ending later calm
  | queued => exact hangupWaiting_hands (.inl state) sound later calm
  | assigned => exact hangupWaiting_hands (.inr state) sound later calm
  | active =>
      simp only
      split
      · exact rules.abandoning calm
      next agentId _ =>
        refine (rules.reading later calm).bind fun endedAt later calm => ?_
        refine (rules.moves _ .hangupActive later calm).bind fun ended later known => ?_
        split
        next done =>
          refine (rules.busies agentId existing.id .acw (.inr rfl) later (known.2 done agentId)).bind
            fun _ later settled => ?_
          exact rules.committing later settled
        next => exact rules.ending later known.1

end Programs

end DContact.Router

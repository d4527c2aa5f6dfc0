import DContact.Router.Desk

/-!
# A walk over the operations

What a worker of the router knows while it goes through an operation, whatever is to be shown of the
tables. Given the rule of each request, every operation but the hang-up can be gone through to its
end: it gives a call only to an agent whom it has locked, it logs about a call only after it has
written it, and it commits only when whoever was given a call is reserved.
-/

namespace DContact.Router

open Lib Discipline
open Governance (Instant)

/-- The call that a transaction has in sight. -/
inductive Sight where
  | nothing
  | read (row : Interaction)
  | drafted (id : String)

inductive Phase where
  | sees (sight : Sight)
  | holding (agent : String) (sight : Sight)
  /-- The agent is reserved for a call that it will be given. -/
  | promised (agent id : String)
  /-- The agent was given a call, and is to be reserved. -/
  | given (agent id : String)
  /-- A call was taken from the agent, who is to be freed. -/
  | taken (agent id : String)
  | moved (agent id : String)
  | settled

@[match_pattern] abbrev Phase.clear : Phase := .sees .nothing

namespace InteractionWrite

inductive Takes (agent : String) : InteractionWrite → Prop
  | requeueOffer {due : Interaction} {now : Instant} {requeueAt : Option Instant}
      (offered : due.agentId = some agent) : Takes agent (.requeueOffer due now requeueAt)
  | abandonOffer {due : Interaction} {now : Instant} (offered : due.agentId = some agent) :
      Takes agent (.abandonOffer due now)
  | declineAbandon {id : String} {endedAt : Instant} :
      Takes agent (.declineAbandon id agent endedAt)
  | declineRequeue {id : String} {requeueAt : Instant} :
      Takes agent (.declineRequeue id agent requeueAt)
  | completeWrapUp {id code : String} : Takes agent (.completeWrapUp id agent code)

inductive Gives (offer : Offer) : InteractionWrite → Prop
  | reassign {id : String} : Gives offer (.reassign id offer)
  | assignRequeued {id : String} {now : Instant} : Gives offer (.assignRequeued id now offer)

/-- Nobody is given the call, and nobody has to be freed. -/
inductive Moves : InteractionWrite → Prop
  | collect {id : String} {stage : IvrInputStage} {attempts : Int} {expiresAt : Instant} :
      Moves (.collect id stage attempts expiresAt)
  | answer {existing : Interaction} {answeredAt : Instant} : Moves (.answer existing answeredAt)
  | requeueWaiting {waiting : Interaction} {now : Instant} : Moves (.requeueWaiting waiting now)
  | hangupActive {existing : Interaction} {endedAt : Instant} : Moves (.hangupActive existing endedAt)
  | abandonWaiting {waiting : Interaction} {now : Instant} : Moves (.abandonWaiting waiting now)

end InteractionWrite

variable {κ α γ : Type} {host : RouterHost} {program : κ → RouterProgram α}

structure Walk (host : RouterHost) (program : κ → RouterProgram α) where
  discipline : Discipline (machineOf host program)
  pid : Nat
  holds : Phase → RouterStore → Prop

namespace Walk

/-- From what a worker knows, a program leads to what is said of its result. -/
def Leads (walk : Walk host program) (before : Phase) (body : RouterProgram γ)
    (after : γ → (Phase → Prop) → Prop) : Prop :=
  ∀ world, walk.holds before world.store → walk.discipline.Ensures walk.pid
    (fun value later => after value fun phase => walk.holds phase later.store) body world

abbrev Stays (walk : Walk host program) (phase : Phase) (body : RouterProgram γ) : Prop :=
  walk.Leads phase body fun _ now => now phase

abbrev Ends (walk : Walk host program) (phase : Phase) (body : RouterProgram γ) : Prop :=
  walk.Leads phase body fun _ _ => True

structure Rules (walk : Walk host program) : Prop where
  forgets : ∀ sight store, walk.holds (.sees sight) store → walk.holds .clear store
  settles : ∀ store, walk.holds .clear store → walk.holds .settled store
  clock : ∀ world, walk.discipline.Ensures walk.pid (fun _ _ => True) readClock world
  begins : ∀ world, walk.discipline.Ensures walk.pid (fun _ later => walk.holds .clear later.store)
    (ask .begin_) world
  commits : walk.Ends .settled (ask .commit)
  rollsBack : ∀ phase, walk.Ends phase (ask .rollback)
  looks : ∀ phase request, request.looks = true → walk.Stays phase (ask request)
  findsCall : ∀ externalId, walk.Leads .clear (ask (.findCall externalId)) fun found now =>
    now .clear ∧ ∀ row, found = some row → now (.sees (.read row))
  locks : ∀ sight id candidates, walk.Leads (.sees sight) (ask (.lockAgent id candidates))
    fun found now => now (.sees sight) ∧
      ∀ agent : AvailableAgent, found = some agent → now (.holding agent.id sight)
  creates : ∀ draft, walk.Leads .clear (attemptCreate draft) fun created now =>
    ∀ row, created = .ok row → now (.sees (.drafted row.id))
  promises : ∀ agent id, walk.Leads (.holding agent (.drafted id))
    (ask (.logState agent .reserved (.interaction id) none)) fun _ now => now (.promised agent id)
  assigns : ∀ offer id, walk.Leads (.promised offer.agentId id) (change (.assignCreated id offer))
    fun _ now => now .clear
  gives : ∀ write offer, write.Gives offer → walk.Leads (.holding offer.agentId .nothing)
    (change write) fun done now => now (bif done then .given offer.agentId write.id else .clear)
  resolves : ∀ interaction queueId attempts, walk.Leads (.sees (.read interaction))
    (change (.resolve interaction.id queueId attempts none)) fun _ now => now .clear
  resolvesFor : ∀ interaction queueId attempts offer,
    walk.Leads (.holding offer.agentId (.read interaction))
      (change (.resolve interaction.id queueId attempts (some offer))) fun _ now =>
        now (.given offer.agentId interaction.id)
  readsAgain : ∀ agent id, walk.Leads (.given agent id) (ask (.findInteraction id)) fun found now =>
    now (.given agent id) ∧ ∀ row, found = some row → now (.given agent row.id)
  reserves : ∀ agent id, walk.Leads (.given agent id)
    (ask (.logState agent .reserved (.interaction id) none)) fun _ now => now .clear
  moves : ∀ write, write.Moves → walk.Leads .clear (change write) fun done now =>
    now .clear ∧ (done = true → ∀ agent, now (.moved agent write.id))
  busies : ∀ agent id state, state = .busy ∨ state = .acw → walk.Leads (.moved agent id)
    (ask (.logState agent state (.interaction id) none)) fun _ now => now .settled
  takes : ∀ agent write, write.Takes agent → walk.Leads .clear (change write) fun done now =>
    now (bif done then .taken agent write.id else .clear)
  frees : ∀ agent id state reason endedAt, state ≠ .reserved → reason.about = some id →
    walk.Leads (.taken agent id) (ask (.logState agent state reason endedAt))
      fun _ now => now .clear
  cools : ∀ now, walk.Stays .clear (releaseExpiredCooldowns now)

namespace Rules

variable {walk : Walk host program} (rules : walk.Rules) {phase : Phase} {sight : Sight}
  {world : RouterWorld κ α} {policy : QueuePolicy} {interactionId queueId agentId : String}
  {interaction existing due : Interaction} {event : TelephonyCallEvent} {now : Instant}
  {attempts : Int} {value : γ} {found : Option γ} {error : RouterError}
include rules

theorem abandoning {post : γ → RouterWorld κ α → Prop} (known : walk.holds phase world.store) :
    walk.discipline.Ensures walk.pid post (abandon error) world :=
  (rules.rollsBack phase world known).bind fun _ _ _ => ensures_throw

theorem finding (next : γ → Phase) (known : walk.holds phase world.store)
    (each : ∀ value, found = some value → walk.holds (next value) world.store) :
    walk.discipline.Ensures walk.pid
      (fun value later => found = some value ∧ walk.holds (next value) later.store)
      (orAbandon error found) world := by
  cases found with
  | none => exact rules.abandoning known
  | some value => exact ensures_pure ⟨rfl, each value rfl⟩

theorem having : walk.Stays phase (orAbandon error found) :=
  fun _ known => (rules.finding (fun _ => phase) known fun _ _ => known).mono
    fun _ _ found => found.2

theorem committing : walk.Ends .settled (committing value) :=
  fun world known => (rules.commits world known).bind fun _ _ _ => ensures_pure trivial

theorem ending : walk.Ends (.sees sight) (Router.committing value) :=
  fun world known => rules.committing world (rules.settles _ (rules.forgets sight _ known))

theorem reading : walk.Stays phase readClock := rules.looks phase .now rfl

theorem dating {seconds : Int} : walk.Stays phase (secondsFromNow seconds) :=
  fun world known => (rules.reading world known).bind fun _ _ known => ensures_pure known

theorem offering {agent : AvailableAgent} : walk.Leads phase (offerTo agent policy)
    fun offer now => offer.agentId = agent.id ∧ now phase := by
  intro world known
  refine (rules.reading world known).bind fun assignedAt later known => ?_
  refine (rules.dating later known).bind fun offerExpiresAt _ known => ?_
  exact ensures_pure ⟨rfl, known⟩

theorem choosing {strategy : RoutingStrategy} : walk.Leads (.sees sight)
    (findAvailableAgent interactionId queueId strategy) fun found now => now (.sees sight) ∧
      ∀ agent, found = some agent → now (.holding agent.id sight) :=
  fun world known => (rules.looks _ (.scanAgents queueId strategy) rfl world known).bind
    fun _ later known => rules.locks sight interactionId _ later known

theorem requiring {row : Option Interaction} : walk.Stays phase (requireLegacy host row) := by
  intro world known
  unfold requireLegacy
  split
  · exact rules.abandoning known
  · exact ensures_pure known

theorem releasing : walk.Leads (.taken agentId interactionId)
    (release (some agentId) interactionId) fun _ now => now .clear :=
  rules.frees agentId interactionId .available (.interaction interactionId) none nofun rfl

theorem readConcurrent {callUuid : String} :
    walk.discipline.Ensures walk.pid (fun _ _ => True) (readConcurrent callUuid) world := by
  refine (rules.begins world).bind fun _ later known => ?_
  refine (rules.looks _ (.findCall callUuid) rfl later known).bind fun found later known => ?_
  exact (rules.having later known).bind fun concurrent later known => rules.ending later known

theorem offerCreated : walk.Ends (.sees (.drafted interaction.id))
    (offerCreated interaction queueId policy) := by
  intro world known
  refine (rules.choosing world known).bind fun found later known => ?_
  cases found with
  | none => exact rules.ending later known.1
  | some agent =>
      refine (rules.promises agent.id interaction.id later (known.2 agent rfl)).bind
        fun _ later promised => ?_
      refine (rules.offering later promised).bind fun offer later offered => ?_
      obtain ⟨same, promised⟩ := offered
      rw [← same] at promised
      refine (rules.assigns offer interaction.id later promised).bind fun _ later known => ?_
      exact rules.ending later known

theorem createCall {draft : CallDraft}
    {proceed : Interaction → RouterProgram InboundVoiceRoutingResult}
    (proceeds : ∀ row, walk.Ends (.sees (.drafted row.id)) (proceed row)) :
    walk.Ends .clear (createCall draft proceed) := by
  intro world known
  refine (rules.creates draft world known).bind fun created later known => ?_
  cases created with
  | ok row => exact proceeds row later (known row rfl)
  | error failure =>
      cases failure with
      | duplicateInteraction => exact rules.readConcurrent
      | _ => exact ensures_throw

theorem ivrConfiguration {value : Option IvrConfiguration} :
    walk.Stays phase (ivrConfiguration value) := by
  intro world known
  unfold Router.ivrConfiguration
  split
  · exact rules.abandoning known
  · split
    · exact rules.abandoning known
    · exact ensures_pure known

theorem handleCreated : walk.Ends .clear (handleCreated host event) := by
  intro world known
  unfold Router.handleCreated
  split
  · exact rules.abandoning known
  refine (rules.looks _ (.findCall event.callUuid) rfl world known).bind fun found later known => ?_
  cases found with
  | some existing => exact rules.ending later known
  | none =>
      refine (rules.having later known).bind fun chosen later known => ?_
      obtain ⟨destination, queue⟩ := chosen
      simp only
      cases mode : destination.entryMode with
      | ivr =>
          refine (rules.ivrConfiguration later known).bind fun configuration later known => ?_
          refine (rules.dating later known).bind fun expiresAt later known => ?_
          exact rules.createCall (fun row => rules.ending) later known
      | directQueue => exact rules.createCall (fun row => rules.offerCreated) later known

theorem ignoresTimeout : walk.Stays phase (ignoresTimeout interaction event) := by
  intro world known
  unfold Router.ignoresTimeout
  split
  · split
    · exact ensures_pure known
    · exact (rules.reading world known).bind fun _ _ known => ensures_pure known
  · exact ensures_pure known

theorem collectAgain {configuration : IvrConfiguration} {stage : IvrInputStage} :
    walk.Ends (.sees sight) (collectAgain interaction configuration stage attempts) := by
  intro world known
  refine (rules.dating world (rules.forgets sight _ known)).bind fun expiresAt later known => ?_
  refine (rules.moves _ .collect later known).bind fun _ later known => ?_
  exact rules.ending later known.1

theorem resolveIvr : walk.Ends (.sees (.read interaction))
    (resolveIvr interaction policy queueId attempts) := by
  intro world known
  refine (rules.choosing world known).bind fun found later known => ?_
  cases found with
  | none =>
      have resolves : walk.discipline.Ensures walk.pid (fun _ after => walk.holds .clear after.store)
          (resolved interaction.id queueId attempts none) later := by
        refine (rules.resolves interaction queueId attempts later known.1).bind
          fun _ later known => ?_
        refine (rules.looks _ (.findInteraction interaction.id) rfl later known).bind
          fun found later known => ?_
        exact rules.having later known
      exact resolves.bind fun row later known => rules.ending later known
  | some agent =>
      refine (rules.offering later (known.2 agent rfl)).bind fun offer later offered => ?_
      obtain ⟨same, holding⟩ := offered
      rw [← same] at holding
      have resolves : walk.discipline.Ensures walk.pid
          (fun row after => walk.holds (.given offer.agentId row.id) after.store)
          (resolved interaction.id queueId attempts (some offer)) later := by
        refine (rules.resolvesFor interaction queueId attempts offer later holding).bind
          fun _ later given => ?_
        refine (rules.readsAgain offer.agentId interaction.id later given).bind
          fun found later given => ?_
        exact (rules.finding (fun (row : Interaction) => .given offer.agentId row.id) given.1
          given.2).mono fun _ _ found => found.2
      refine resolves.bind fun row later given => ?_
      rw [same] at given
      refine (rules.reserves agent.id row.id later given).bind fun _ later known => ?_
      exact rules.ending later known

theorem handleIvrInput : walk.Ends .clear (handleIvrInput host event) := by
  intro world known
  unfold Router.handleIvrInput
  split
  · exact rules.abandoning known
  refine (rules.findsCall event.callUuid world known).bind fun found _ known => ?_
  refine (rules.finding (fun row => .sees (.read row)) known.1 known.2).bind
    fun interaction later found => ?_
  have known := found.2
  split
  next destinationId stage _ _ _ =>
    refine (rules.ignoresTimeout later known).bind fun ignored later known => ?_
    split
    · exact rules.ending later known
    refine (rules.having later known).bind fun destination later known => ?_
    refine (rules.having later known).bind fun queue later known => ?_
    refine (rules.ivrConfiguration later known).bind fun configuration later known => ?_
    generalize chosenRoute host configuration stage event = route
    dsimp only
    generalize (if (route.any fun key => decide (key ≠ "")) = true then interaction.ivrAttempts
      else interaction.ivrAttempts + 1) = attempts
    split
    · exact rules.collectAgain later known
    · split
      · exact rules.collectAgain later known
      · split
        · exact rules.collectAgain later known
        · exact rules.resolveIvr later known
  next => exact rules.ending later known

theorem handleAnswered : walk.Ends .clear (handleAnswered event) := by
  intro world known
  unfold Router.handleAnswered
  refine (rules.looks _ (.findCall event.callUuid) rfl world known).bind fun found later known => ?_
  refine (rules.having later known).bind fun existing later known => ?_
  split
  next agentId _ _ =>
    refine (rules.reading later known).bind fun answeredAt later known => ?_
    refine (rules.moves _ .answer later known).bind fun claimed later known => ?_
    split
    next done =>
      refine (rules.busies agentId existing.id .busy (.inl rfl) later (known.2 done agentId)).bind
        fun _ later settled => ?_
      exact rules.committing later settled
    next =>
      refine (rules.looks _ (.findInteraction existing.id) rfl later known.1).bind
        fun found later known => ?_
      exact (rules.having later known).bind fun current later known => rules.ending later known
  next => exact rules.ending later known

theorem requireLegacyDestination : walk.Stays phase (requireLegacyDestination host event) := by
  intro world known
  unfold Router.requireLegacyDestination
  split
  · exact rules.abandoning known
  · exact ensures_pure known

/-- An event leaves what a hang-up leaves, if it is one. -/
theorem handle (post : InboundVoiceRoutingResult → RouterStore → Prop)
    (hangs : ∀ world, walk.holds .clear world.store → walk.discipline.Ensures walk.pid
      (fun result later => post result later.store) (handleHangup event) world) :
    walk.discipline.Ensures walk.pid (fun result later => event.type = .hangup →
      post result later.store) (handle host event) world := by
  have quiet : ∀ {type : TelephonyEventType} {body : RouterProgram InboundVoiceRoutingResult}
      {later}, type ≠ .hangup → walk.discipline.Ensures walk.pid (fun _ _ => True) body later →
      walk.discipline.Ensures walk.pid (fun result after => type = .hangup →
        post result after.store) body later :=
    fun other ensures => ensures.mono fun _ _ _ hangup => absurd hangup other
  unfold Router.handle
  refine (rules.begins world).bind fun _ later known => ?_
  refine (rules.looks _ (.findCall event.callUuid) rfl later known).bind fun managed later known => ?_
  refine (rules.requiring later known).bind fun _ later known => ?_
  cases type : event.type with
  | created =>
      refine quiet nofun ?_
      exact (rules.requireLegacyDestination later known).bind
        fun _ later known => rules.handleCreated later known
  | answered => exact quiet nofun (rules.handleAnswered later known)
  | hangup => exact (hangs later known).mono fun _ _ holds _ => holds
  | input => exact quiet nofun (rules.handleIvrInput later known)
  | other name => exact quiet nofun (rules.abandoning known)

section Giving

variable {outcome : Option DueOfferOutcome} {write : InteractionWrite}

theorem giving (offer : Offer) (gives : write.Gives offer) :
    walk.Leads (.holding offer.agentId .nothing) (do
      let assigned ← change write
      if assigned then
        ask (.logState offer.agentId .reserved (.interaction write.id) none)
        pure outcome
      else pure none) fun _ now => now .clear := by
  intro world holding
  refine (rules.gives write offer gives world holding).bind fun assigned later known => ?_
  cases assigned with
  | true =>
      refine (rules.reserves offer.agentId write.id later known).bind fun _ _ known => ?_
      exact ensures_pure known
  | false => exact ensures_pure known

theorem moving (moves : write.Moves) : walk.Stays .clear
    (do
      let changed ← change write
      if changed then pure outcome else pure none) := by
  intro world known
  refine (rules.moves write moves world known).bind fun changed _ known => ?_
  cases changed <;> exact ensures_pure known.1

end Giving

theorem offerAgain : walk.Stays .clear (offerAgain due queueId policy now) := by
  intro world known
  unfold Router.offerAgain
  refine (rules.choosing world known).bind fun found later known => ?_
  cases found with
  | none => exact ensures_pure known.1
  | some agent =>
      refine (rules.dating later (known.2 agent rfl)).bind fun offerExpiresAt later holding => ?_
      exact rules.giving ⟨agent.id, now, offerExpiresAt⟩ .reassign later holding

theorem requeueOffer (offered : due.agentId = some agentId) :
    walk.Stays .clear (requeueOffer due agentId queueId policy now) := by
  intro world known
  unfold Router.requeueOffer
  split
  · refine (rules.dating world known).bind fun requeueAt later known => ?_
    refine (rules.takes agentId _ (.requeueOffer offered) later known).bind
      fun claimed later known => ?_
    cases claimed with
    | true =>
        have cools : walk.discipline.Ensures walk.pid (fun _ after => walk.holds .clear after.store)
            (coolDown agentId due.id policy) later :=
          (rules.dating later known).bind fun endedAt later known => rules.frees agentId due.id
            .break_ (.cooldown due.id) (some endedAt) nofun rfl later known
        exact cools.bind fun _ _ known => ensures_pure known
    | false => exact ensures_pure known
  all_goals
    refine (rules.takes agentId _ (.requeueOffer offered) world known).bind
      fun claimed later known => ?_
    cases claimed with
    | true =>
        refine (rules.releasing later known).bind fun _ later known => ?_
        exact rules.offerAgain later known
    | false => exact ensures_pure known

theorem abandonOffer (offered : due.agentId = some agentId) :
    walk.Stays .clear (abandonOffer due agentId queueId now) := by
  intro world known
  unfold Router.abandonOffer
  refine (rules.takes agentId _ (.abandonOffer offered) world known).bind
    fun abandoned later known => ?_
  cases abandoned with
  | true => exact (rules.releasing later known).bind fun _ _ known => ensures_pure known
  | false => exact ensures_pure known

theorem timeOutOffer : walk.Stays .clear (timeOutOffer host now due) := by
  intro world known
  unfold Router.timeOutOffer
  split
  next agentId queueId queue offered _ _ =>
    dsimp only
    split
    · exact rules.abandonOffer offered world known
    · exact rules.requeueOffer offered world known
  next => exact ensures_pure known

theorem assignRequeue : walk.Stays .clear (assignRequeue host now due) := by
  intro world known
  unfold Router.assignRequeue
  split
  next queueId queue _ _ =>
    refine (rules.choosing world known).bind fun found later known => ?_
    cases found with
    | none => exact ensures_pure known.1
    | some agent =>
        refine (rules.dating later (known.2 agent rfl)).bind fun offerExpiresAt later holding => ?_
        exact rules.giving ⟨agent.id, now, offerExpiresAt⟩ .assignRequeued later holding
  next => exact ensures_pure known

theorem checkMaxWait {waiting : Interaction} :
    walk.Stays .clear (checkMaxWait host now waiting) := by
  intro world known
  unfold Router.checkMaxWait
  split
  · exact ensures_pure known
  · dsimp only
    split
    · exact ensures_pure known
    · split
      · exact ensures_pure known
      · split
        · exact ensures_pure known
        · split
          · exact rules.moving .requeueWaiting world known
          all_goals exact rules.moving .abandonWaiting world known

theorem processDue :
    walk.discipline.Ensures walk.pid (fun _ _ => True) (processDue host) world := by
  unfold Router.processDue
  refine (rules.clock world).bind fun now later _ => ?_
  refine (rules.begins later).bind fun _ later known => ?_
  refine (rules.looks _ (.dueIvrInputs now) rfl later known).bind fun dueIvrInputs later known => ?_
  refine (rules.looks _ (.dueOffers now) rfl later known).bind fun dueOffers later known => ?_
  refine (ensures_forEach known fun due _ => rules.timeOutOffer).bind
    fun timedOut later known => ?_
  refine (rules.cools now later known).bind fun _ later known => ?_
  refine (rules.looks _ (.dueRequeues now) rfl later known).bind fun dueRequeues later known => ?_
  refine (ensures_forEach known fun due _ => rules.assignRequeue).bind
    fun assigned later known => ?_
  refine (rules.looks _ .waiting rfl later known).bind fun waiting later known => ?_
  refine (ensures_forEach known fun due _ => rules.checkMaxWait).bind
    fun overdue later known => ?_
  exact rules.ending later known

theorem decline {command : DeclineOfferCommand} :
    walk.Ends .clear (decline existing command policy) := by
  intro world known
  unfold Router.decline
  split
  · refine (rules.reading world known).bind fun endedAt later known => ?_
    refine (rules.takes _ _ .declineAbandon later known).bind fun updated later known => ?_
    cases updated with
    | true => exact (rules.releasing later known).bind fun _ later known => rules.ending later known
    | false => exact rules.ending later known
  · refine (rules.dating world known).bind fun requeueAt later known => ?_
    refine (rules.takes _ _ .declineRequeue later known).bind fun updated later known => ?_
    cases updated with
    | true =>
        refine (rules.frees command.agentId existing.id .break_ (.cooldown existing.id)
          (some requeueAt) nofun rfl later known).bind fun _ later known => ?_
        exact rules.ending later known
    | false => exact rules.ending later known
  · refine (rules.reading world known).bind fun requeueAt later known => ?_
    refine (rules.takes _ _ .declineRequeue later known).bind fun updated later known => ?_
    cases updated with
    | true => exact (rules.releasing later known).bind fun _ later known => rules.ending later known
    | false => exact rules.ending later known

theorem declineOffer {command : DeclineOfferCommand} :
    walk.discipline.Ensures walk.pid (fun _ _ => True) (declineOffer host command) world := by
  unfold Router.declineOffer
  refine (rules.begins world).bind fun _ later known => ?_
  refine (rules.looks _ (.findInteraction command.interactionId) rfl later known).bind
    fun managed later known => ?_
  refine (rules.requiring later known).bind fun _ later known => ?_
  refine (rules.looks _ (.findInteraction command.interactionId) rfl later known).bind
    fun found later known => ?_
  refine (rules.having later known).bind fun existing later known => ?_
  split
  · exact rules.ending later known
  · split
    · exact rules.ending later known
    · exact rules.decline later known

theorem completeWrapUp {command : CompleteWrapUpCommand} :
    walk.discipline.Ensures walk.pid (fun _ _ => True) (completeWrapUp command) world := by
  unfold Router.completeWrapUp
  dsimp only
  split
  · exact ensures_throw
  refine (rules.begins world).bind fun _ later known => ?_
  refine (rules.looks _ (.findInteraction command.interactionId) rfl later known).bind
    fun found later known => ?_
  refine (rules.having later known).bind fun existing later known => ?_
  split
  · exact rules.abandoning known
  · split
    · exact rules.ending later known
    · split
      · exact rules.abandoning known
      · refine (rules.takes _ _ .completeWrapUp later known).bind fun completed later known => ?_
        cases completed with
        | true =>
            refine (rules.frees command.agentId existing.id .available (.interaction existing.id)
              none nofun rfl later known).bind fun _ later known => ?_
            exact rules.ending later known
        | false => exact rules.ending later known

end Rules

end Walk

end DContact.Router

import DContact.Journey.RuntimeDefinition

/-!
# Where the steps of a definition lead

A definition without a graph code is connected, and its entry reaches an exit. From every step an
exit is reached where the graph has no cycle.
-/

namespace DContact.Journey.Authoring

open Lib List
open Relation (ReflTransGen)

/-- The codes of `validateGraphStructure`. -/
def JourneyDefinitionValidationCode.ofGraph : JourneyDefinitionValidationCode → Bool
  | .graphEntryMissing | .graphStepIdDuplicate | .graphStepShapeInvalid
  | .graphStepReferenceMissing | .graphStepUnreachable | .graphNoTerminalReachable => true
  | _ => false

variable {code other : JourneyDefinitionValidationCode} {content graph step : Json}
  {codes : List JourneyDefinitionValidationCode} {evaluator : StructuralEvaluator}
  {entryStepId : String} {steps : List Json}

theorem mem_verdict {holds : Bool} (mem : other ∈ verdict holds code) : other = code := by
  cases holds with
  | false => exact mem_singleton.mp mem
  | true => cases mem

theorem mem_dedupe : code ∈ dedupe codes ↔ code ∈ codes := by
  constructor
  · exact Table.firsts_subset
  · intro mem
    obtain ⟨kept, first, rfl⟩ : ∃ kept ∈ dedupe codes, kept = code := Table.exists_first mem
    exact first

theorem ofGraph_of_mem (mem : code ∈ (validateGraphStructure graph).1) : code.ofGraph = true := by
  unfold validateGraphStructure at mem
  split at mem
  · split at mem
    · exact mem_singleton.mp mem ▸ rfl
    · dsimp only at mem
      split at mem
      · rcases mem_append.mp (mem_dedupe.mp mem) with mem | mem
        · exact mem_verdict mem ▸ rfl
        · exact mem_verdict mem ▸ rfl
      · rcases mem_append.mp (mem_dedupe.mp mem) with mem | mem
        · rcases mem_append.mp mem with mem | mem
          · exact (mem_replicate.mp mem).2 ▸ rfl
          · exact mem_verdict mem ▸ rfl
        · obtain ⟨step, -, mem⟩ := mem_flatMap.mp mem
          unfold stepCodes at mem
          split at mem
          · obtain ⟨successor, -, mem⟩ := mem_flatMap.mp mem
            exact mem_verdict mem ▸ rfl
          · exact mem_singleton.mp mem ▸ rfl
  · exact mem_singleton.mp mem ▸ rfl

/-- The other checks have codes of their own. -/
theorem no_graph_code_iff (graphRead : content.get? "graph" = some graph)
    (returned : validateJourneyDefinitionStructure content evaluator = some codes) :
    (∀ code ∈ codes, code.ofGraph = false) ↔ (validateGraphStructure graph).1 = [] := by
  unfold validateJourneyDefinitionStructure at returned
  obtain ⟨_, read, returned⟩ := Option.bind_eq_some_iff.mp returned
  cases graphRead.symm.trans read
  obtain ⟨triggerCodes, trigger, returned⟩ := Option.bind_eq_some_iff.mp returned
  obtain ⟨goalCodes, goal, returned⟩ := Option.bind_eq_some_iff.mp returned
  obtain ⟨kind, -, trigger⟩ := Option.bind_eq_some_iff.mp trigger
  obtain ⟨goalKind, -, goal⟩ := Option.bind_eq_some_iff.mp goal
  cases trigger
  cases goal
  cases returned
  constructor
  · intro clean
    refine eq_nil_iff_forall_not_mem.mpr fun code mem => ?_
    have listed := clean code (mem_dedupe.mpr (by simp [mem]))
    rw [ofGraph_of_mem mem] at listed
    cases listed
  · intro sound code mem
    simp only [mem_dedupe, sound, mem_append, isEmpty_nil, if_true, graphDependentCodes,
      not_mem_nil, or_false] at mem
    rcases mem with ((((mem | mem) | mem) | mem) | mem) | (mem | mem) | mem
    · exact mem_verdict mem ▸ rfl
    · exact mem_verdict mem ▸ rfl
    · exact mem_verdict mem ▸ rfl
    · unfold validateExitRules at mem
      split at mem
      · exact mem_verdict mem ▸ rfl
      · exact mem_singleton.mp mem ▸ rfl
    · unfold validateMaxDuration at mem
      split at mem
      · exact mem_verdict mem ▸ rfl
      · exact mem_singleton.mp mem ▸ rfl
    · exact mem_verdict mem ▸ rfl
    · exact mem_verdict mem ▸ rfl
    · unfold validateOutcomeTriggerEntryStep at mem
      split at mem
      · exact mem_verdict mem ▸ rfl
      · cases mem

theorem exists_successor (valid : stepShapeValid step = true)
    (goesOn : stepType? step ≠ some .exit) : ∃ successor, successor ∈ stepSuccessors step := by
  cases typed : stepType? step with
  | none => simp [stepShapeValid, typed] at valid
  | some type =>
      obtain ⟨field, listed⟩ : ∃ field, field ∈ successorFields type := by
        cases type with
        | exit => exact absurd typed goesOn
        | _ => exact ⟨_, mem_cons_self⟩
      obtain ⟨text, read, -⟩ := isText_iff.mp (shape_successors typed valid field listed)
      rw [stepSuccessors, typed]
      exact ⟨text, mem_filterMap.mpr ⟨field, listed, textAt_eq_some.mpr read⟩⟩

theorem GraphAccepted.leads_to_exit (accepted : GraphAccepted graph entryStepId steps)
    (acyclic : GraphSearch.Acyclic (successorsIn steps)) (mem : step ∈ steps) :
    ∃ last ∈ steps, stepType? last = some .exit ∧
      ReflTransGen (GraphSearch.Edge (successorsIn steps)) (stepId step) (stepId last) := by
  have own : ∀ step ∈ steps, successorsIn steps (stepId step) = stepSuccessors step := by
    intro step mem
    rw [successorsIn, findStep_of_nodup accepted.connected.distinct,
      Table.lookup_of_member accepted.connected.distinct mem rfl]
  have closed : ∀ node ∈ steps.map stepId, successorsIn steps node ⊆ steps.map stepId := by
    intro node listed successor follows
    obtain ⟨step, mem, rfl⟩ := mem_map.mp listed
    rw [own step mem] at follows
    exact mem_map.mpr (accepted.connected.references step mem successor follows)
  have finite : GraphSearch.Terminates (successorsIn steps) :=
    GraphSearch.findCyclic_sound (GraphSearch.findCyclic_complete closed acyclic) fun node busy =>
      by_contra fun absent => busy (successorsIn_absent absent)
  obtain ⟨id, same⟩ : ∃ id, stepId step = id := ⟨_, rfl⟩
  induction id using finite.induction generalizing step with
  | _ id ih =>
      subst same
      by_cases exits : stepType? step = some .exit
      · exact ⟨step, mem, exits, .refl⟩
      · obtain ⟨successor, follows⟩ := exists_successor (accepted.connected.shapes step mem) exits
        obtain ⟨next, listed, rfl⟩ := accepted.connected.references step mem successor follows
        have edge : GraphSearch.Edge (successorsIn steps) (stepId step) (stepId next) := by
          rwa [GraphSearch.Edge, own step mem]
        obtain ⟨last, inside, exits, path⟩ := ih _ edge listed rfl
        exact ⟨last, inside, exits, path.head edge⟩

/-- A definition has no graph code exactly when its steps are connected and its entry reaches each
of them, an exit included. Without a cycle each of its steps leads to an exit. -/
theorem definition_graph_is_reached_iff (graphRead : content.get? "graph" = some graph)
    (returned : validateJourneyDefinitionStructure content evaluator = some codes) :
    ((∀ code ∈ codes, code.ofGraph = false) ↔
      ∃ entryStepId steps, GraphAccepted graph entryStepId steps) ∧
    ∀ entryStepId steps, GraphAccepted graph entryStepId steps →
      GraphSearch.Acyclic (successorsIn steps) → ∀ step ∈ steps,
        ∃ last ∈ steps, stepType? last = some .exit ∧
          ReflTransGen (GraphSearch.Edge (successorsIn steps)) (stepId step) (stepId last) :=
  ⟨(no_graph_code_iff graphRead returned).trans validateGraphStructure_accepts,
    fun _ _ accepted acyclic _ mem => accepted.leads_to_exit acyclic mem⟩

def waitingSteps : List Json :=
  [.obj [("id", .str "choose"), ("type", .str "BRANCH"), ("expression", .obj []),
      ("whenTrue", .str "done"), ("whenFalse", .str "again")],
    .obj [("id", .str "again"), ("type", .str "WAIT"), ("waitSeconds", .num 60),
      ("next", .str "again")],
    .obj [("id", .str "done"), ("type", .str "EXIT"), ("reason", .str "DONE")]]

def waitingGraph : Json := .obj [("entryStepId", .str "choose"), ("steps", .arr waitingSteps)]

def waitingContent : Json :=
  .obj [("trigger", .obj [("kind", .str "EVENT"), ("eventType", .str "signup")]),
    ("goal", .obj [("kind", .str "EVENT"), ("eventType", .str "bought")]),
    ("purpose", .str "SERVICE"), ("senderIdentityId", .str "sender"),
    ("exitRules", .arr [.obj [("kind", .str "GOAL")]]), ("maxDurationDays", .num 30),
    ("graph", waitingGraph)]

theorem definition_graph_is_reached_for_waiting :
    ∃ entryStepId steps, GraphAccepted waitingGraph entryStepId steps :=
  (definition_graph_is_reached_iff rfl (show validateJourneyDefinitionStructure waitingContent
    (fun _ => none) = some [] by decide +kernel)).1.mp nofun

/-- Nothing is reported about a definition one of whose steps never leads to an exit. -/
theorem endless_wait_is_accepted :
    validateJourneyDefinitionStructure waitingContent (fun _ => none) = some [] ∧
      ∃ step ∈ waitingSteps, ¬ ∃ last ∈ waitingSteps, stepType? last = some .exit ∧
        ReflTransGen (GraphSearch.Edge (successorsIn waitingSteps)) (stepId step)
          (stepId last) := by
  refine ⟨by decide +kernel, _, mem_cons_of_mem _ mem_cons_self, ?_⟩
  rintro ⟨last, mem, exits, path⟩
  have stays : stepId last = "again" := by
    generalize stepId last = id at path
    induction path with
    | refl => rfl
    | tail _ edge ih =>
        subst ih
        exact mem_singleton.mp edge
  have elsewhere : ∀ step ∈ waitingSteps, stepType? step = some .exit → stepId step ≠ "again" := by
    decide +kernel
  exact elsewhere last mem exits stays

end DContact.Journey.Authoring

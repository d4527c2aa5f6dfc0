import DContact.Journey.AuthoringClean

/-!
# What the compiler accepts

The compiler accepts a document when the authoring validator and the runtime validator both have
nothing to report. An accepted document is a well-formed journey and its runtime definition moves
along its edges, provided that no edge leaves a port with an inherited name: the test for a port
is answered by `Object.prototype` as well.
-/

namespace DContact.Journey.Authoring

open Lib List JourneyNodeType DocumentEdge
open Option (map_eq_some_iff bind_eq_some_iff)
open Relation (ReflTransGen)
open Governance (Instant)
open Definition (JourneyStepPlan ExpressionEvaluator OwnerResultOutcome ownerResultNextStep)

/-! ## Reading a compiled step -/

def transitionFields : List String := ["next", "whenTrue", "whenFalse", "onReject"]

def reservedFields : List String := ["id", "type"] ++ transitionFields

variable {name : String}

/-- No configuration declares a field that the compiler writes. -/
theorem config_not_reserved {type : JourneyNodeType}
    (declared : name ∈ type.configFields.map ConfigField.name) : name ∉ reservedFields := by
  have every : ∀ type ∈ journeyNodeTypes, ∀ name ∈ type.configFields.map ConfigField.name,
      name ∉ reservedFields := by decide +kernel
  exact every type (mem_journeyNodeTypes type) name declared

theorem outputs_reserved (type : JourneyStepNodeType) :
    ((step type).outputs.map Prod.snd).Nodup ∧
      ∀ output ∈ (step type).outputs, output.2 ∈ transitionFields := by
  rcases type with _ | _ | _ | _ | kind
  · decide
  · decide
  · decide
  · decide
  · cases kind <;> decide

theorem presentFields_names {entries : List (String × Option Json)}
    (mem : name ∈ (presentFields entries).map Prod.fst) : name ∈ entries.map Prod.fst := by
  obtain ⟨entry, inside, rfl⟩ := mem_map.mp mem
  obtain ⟨source, listed, made⟩ := mem_filterMap.mp inside
  obtain ⟨value, -, rfl⟩ := map_eq_some_iff.mp made
  exact mem_map_of_mem listed

variable {port field : String}

section
variable {host : Host} {targets : List (String × Option Json)} {node : DocumentNode}
  {type : JourneyStepNodeType}

theorem config_absent (declared : ConfigClean host node.type node.config)
    (reserved : name ∈ reservedFields) : name ∉ node.config.map Prod.fst := by
  intro mem
  obtain ⟨entry, inside, rfl⟩ := mem_map.mp mem
  exact config_not_reserved (declared.declared entry inside) reserved

section
variable (isStep : node.type = .step type)
include isStep

theorem transitions_names (mem : name ∈ (transitionsOf targets node).map Prod.fst) :
    name ∈ transitionFields := by
  have named := presentFields_names mem
  rw [map_map, isStep] at named
  obtain ⟨output, listed, rfl⟩ := mem_map.mp named
  exact (outputs_reserved type).2 output listed

theorem get?_header (declared : ConfigClean host node.type node.config)
    (header : name = "id" ∨ name = "type") :
    (buildStep targets node).get? name =
      (Json.objectOf [("id", .str node.nodeId), ("type", .str node.type.name)]).get? name := by
  have reserved : name ∈ reservedFields := by
    rcases header with rfl | rfl <;> decide
  have notTransition : name ∉ (transitionsOf targets node).map Prod.fst := by
    intro mem
    have transition := transitions_names isStep mem
    rcases header with rfl | rfl <;> exact absurd transition (by decide)
  rw [buildStep, Json.get?_objectOf_append, Json.get?_objectOf_eq_none notTransition,
    Option.none_or, Json.get?_objectOf_append,
    Json.get?_objectOf_eq_none (config_absent declared reserved), Option.none_or]

theorem stepId_buildStep (declared : ConfigClean host node.type node.config) :
    stepId (buildStep targets node) = node.nodeId := by
  have read : (buildStep targets node).get? "id" = some (.str node.nodeId) := by
    rw [get?_header isStep declared (.inl rfl), Json.get?_objectOf_of_nodup (by simp)]
    rfl
  rw [stepId, textAt_eq_some.mpr read, Option.getD_some]

theorem stepType?_buildStep (declared : ConfigClean host node.type node.config) :
    stepType? (buildStep targets node) = some type := by
  have read : (buildStep targets node).get? "type" = some (.str node.type.name) := by
    rw [get?_header isStep declared (.inr rfl), Json.get?_objectOf_of_nodup (by simp)]
    rfl
  rw [stepType?, textAt_eq_some.mpr read, Option.bind_some, isStep, typeEntry?_name (.step type)]

theorem get?_transition (declared : ConfigClean host node.type node.config)
    (output : (port, field) ∈ node.type.outputs) :
    (buildStep targets node).get? field = targetAt targets (slot node.nodeId port) := by
  rw [isStep] at output
  obtain ⟨distinct, reserved⟩ := outputs_reserved type
  have transition : field ∈ transitionFields := reserved _ output
  have notHeader : field ∉ ["id", "type"] := by
    intro mem
    have disjoint : ∀ name ∈ transitionFields, name ∉ ["id", "type"] := by decide
    exact disjoint field transition mem
  have front : (Json.objectOf ([("id", .str node.nodeId), ("type", .str node.type.name)] ++
      node.config)).get? field = none := by
    refine Json.get?_objectOf_eq_none ?_
    rw [map_append, mem_append]
    rintro (header | configured)
    · exact notHeader header
    · exact config_absent declared (mem_append_right _ transition) configured
  have entries : ((node.type.outputs.map fun output =>
      (output.2, targetAt targets (slot node.nodeId output.1))).map Prod.fst).Nodup := by
    rw [map_map, isStep]
    exact distinct
  have listed : (field, targetAt targets (slot node.nodeId port)) ∈ node.type.outputs.map
      fun output => (output.2, targetAt targets (slot node.nodeId output.1)) := by
    rw [isStep]
    exact mem_map.mpr ⟨(port, field), output, rfl⟩
  rw [buildStep, Json.get?_objectOf_append, front, Option.or_none, transitionsOf,
    get?_present entries, Table.lookup_of_member entries listed rfl, Option.bind_some]

end

end

/-! ## Documents as graphs -/

structure JourneyView where
  trigger : DocumentNode
  nodes : List DocumentNode
  edges : List DocumentEdge

def JourneyView.all (view : JourneyView) : List DocumentNode := view.trigger :: view.nodes

def readEdge (host : Host) (edge : Json) : Option DocumentEdge :=
  match edge.get? "source", edge.get? "target" with
  | some (.obj source), some (.obj target) => readEnds host source target
  | _, _ => none

def viewDocument (host : Host) (document : Json) : Option JourneyView := do
  let parts ← documentParts? (ownFields document)
  let trigger ← readNode (.obj parts.trigger)
  let nodes ← parts.nodes.mapM readNode
  let edges ← parts.edges.mapM (readEdge host)
  return ⟨trigger, nodes, edges⟩

def plannedMove (plan : JourneyStepPlan) (outcome : OwnerResultOutcome) :
    Option (String × String) :=
  match plan with
  | .exit => none
  | .wait nextStepId _ => some ("next", nextStepId)
  | .branch nextStepId branchResult =>
      some (if branchResult then "true" else "false_or_error", nextStepId)
  | .awaitSend nextStepId => some ("next", nextStepId)
  | .awaitOwner acceptedStepId rejectedStepId =>
      some (match outcome with
        | .accepted => "accepted"
        | .rejected => "rejected", ownerResultNextStep acceptedStepId rejectedStepId outcome)

/-- On every outcome the planner moves along the edge of the document that leaves the port, and
it moves nowhere only at an exit. -/
def PlansAlong (view : JourneyView) (node : DocumentNode) (step : Json) : Prop :=
  ∀ now evaluator outcome, ∃ plan, planStep now evaluator step = some plan ∧
    match plannedMove plan outcome with
    | none => node.type = .step .exit
    | some (port, next) => ⟨node.nodeId, port, next⟩ ∈ view.edges

structure WellFormedJourney (view : JourneyView) (runtime : Json) : Prop where
  triggerFirst : ∃ type, view.trigger.type = .trigger type
  stepsAfter : ∀ node ∈ view.nodes, ∃ type, node.type = .step type
  ids_unique : (view.all.map DocumentNode.nodeId).Nodup
  one_edge_per_port : ∀ node ∈ view.all, ∀ port ∈ node.type.ports,
    (view.edges.filter fun edge => edge.source = node.nodeId && edge.port = port).length = 1
  ports_declared : ∀ edge ∈ view.edges, ∃ node ∈ view.all,
    node.nodeId = edge.source ∧ edge.port ∈ node.type.ports
  edges_between : ∀ edge ∈ view.edges, ∃ node ∈ view.nodes, node.nodeId = edge.target
  acyclic : GraphSearch.Acyclic (successors view.edges)
  reachable : ∀ node ∈ view.all,
    ReflTransGen (GraphSearch.Edge (successors view.edges)) view.trigger.nodeId node.nodeId
  paths_finite : GraphSearch.Terminates (successors view.edges)
  paths_end_in_exit : ∀ node ∈ view.all, successors view.edges node.nodeId = [] →
    node.type = .step .exit
  actions_at_entry : ∀ node ∈ view.nodes, ∀ kind, node.type = .step (.restricted kind) →
    view.trigger.type = .trigger .interactionOutcomeTrigger ∧
      ⟨view.trigger.nodeId, "start", node.nodeId⟩ ∈ view.edges
  entry_planned : ∃ entry, graphEntry runtime = some entry ∧
    ⟨view.trigger.nodeId, "start", entry⟩ ∈ view.edges
  steps_planned : ∀ node ∈ view.nodes, ∃ step,
    findStep (graphSteps runtime) node.nodeId = some step ∧ PlansAlong view node step

/-! ## From fields to edges -/

theorem successorFields_outputs (type : JourneyStepNodeType) :
    successorFields type = (step type).outputs.map Prod.snd := by
  cases type <;> rfl

variable {node : DocumentNode}

section
variable {host : Host} {capabilities : List JourneyRuntimeCapability} {parts : DocumentParts}
  {trigger : DocumentNode} {nodes : List DocumentNode} {edges : List (String × DocumentEdge)}
  {targets : List (String × Option Json)}

section
variable (clean : Clean host capabilities parts trigger nodes edges)
include clean

theorem Clean.edgeOf (mem : node ∈ trigger :: nodes) (declared : port ∈ node.type.ports) :
    ∃ edge ∈ edges, edge.2.source = node.nodeId ∧ edge.2.port = port := by
  obtain ⟨edge, listed, same⟩ := mem_map.mp (clean.connected node mem port declared)
  obtain ⟨⟨source, inside, leaves, -⟩, -⟩ := clean.ends listed
  have identified : isOpaqueId edge.2.source = true := leaves ▸ clean.identified source inside
  obtain ⟨sources, ports⟩ := slot_injective identified (clean.identified node mem) same
  exact ⟨edge, listed, sources, ports⟩

theorem compiled_transition
    (held : ∀ edge ∈ edges, ∃ value, targetAt targets edge.2.slot = some value ∧
      host.text value = some edge.2.target) (mem : node ∈ nodes)
    (valid : stepShapeValid (buildStep targets node) = true)
    (output : (port, field) ∈ node.type.outputs) :
    ∃ edge ∈ edges, edge.2.source = node.nodeId ∧ edge.2.port = port ∧
      textAt (buildStep targets node) field = some edge.2.target := by
  have inside : node ∈ trigger :: nodes := mem_cons_of_mem _ mem
  obtain ⟨type, isStep⟩ := clean.isStep node mem
  have declared := clean.declared node inside
  have typed : stepType? (buildStep targets node) = some type :=
    stepType?_buildStep isStep declared
  obtain ⟨edge, listed, leaves, through⟩ :=
    clean.edgeOf inside (mem_map.mpr ⟨(port, field), output, rfl⟩)
  obtain ⟨value, stored, text⟩ := held edge listed
  have read : (buildStep targets node).get? field = some value := by
    rw [get?_transition isStep declared output, ← stored, DocumentEdge.slot, leaves, through]
  have successor : field ∈ successorFields type := by
    rw [successorFields_outputs, ← isStep]
    exact mem_map.mpr ⟨(port, field), output, rfl⟩
  obtain ⟨target, isTarget, -⟩ := isText_iff.mp (shape_successors typed valid field successor)
  rw [read, Option.some.injEq] at isTarget
  subst isTarget
  rw [host.text_str, Option.some.injEq] at text
  exact ⟨edge, listed, leaves, through, by rw [textAt_eq_some, read, text]⟩

theorem stepSuccessors_buildStep
    (held : ∀ edge ∈ edges, ∃ value, targetAt targets edge.2.slot = some value ∧
      host.text value = some edge.2.target) (mem : node ∈ nodes)
    (valid : stepShapeValid (buildStep targets node) = true) :
    stepSuccessors (buildStep targets node) ⊆ successors (edges.map Prod.snd) node.nodeId := by
  obtain ⟨type, isStep⟩ := clean.isStep node mem
  have declared := clean.declared node (mem_cons_of_mem _ mem)
  intro successor follows
  rw [stepSuccessors, stepType?_buildStep isStep declared] at follows
  have follows : successor ∈ (successorFields type).filterMap (textAt (buildStep targets node)) :=
    follows
  rw [successorFields_outputs, ← isStep] at follows
  obtain ⟨field, listed, text⟩ := mem_filterMap.mp follows
  obtain ⟨⟨port, name⟩, output, rfl⟩ := mem_map.mp listed
  obtain ⟨edge, inside, leaves, -, read⟩ := compiled_transition clean held mem valid output
  rw [read, Option.some.injEq] at text
  exact mem_successors.mpr ⟨edge.2, mem_map_of_mem inside, leaves, text⟩

end

end

/-! ## The canonical runtime definition -/

theorem textAt_canonicalize (entries : List (String × Json)) (name : String) :
    textAt (Json.canonicalize (Json.objectOf entries)) name = textAt (Json.objectOf entries) name := by
  unfold textAt
  rw [Json.get?_canonicalize_objectOf]
  cases (Json.objectOf entries).get? name with
  | none => rfl
  | some value =>
      cases value with
      | str text => rw [Option.map_some, Json.canonicalize]
      | null | bool | num | arr => simp [Json.canonicalize]
      | obj fields => simp [Json.canonicalize, Json.objectOf]

theorem positiveAt_read {step : Json} (valid : positiveAt step name = true) :
    ∃ number, step.get? name = some (.num number) := by
  unfold positiveAt fieldValid at valid
  generalize step.get? name = value at valid ⊢
  cases value with
  | none => cases valid
  | some found =>
      cases found with
      | num number => exact ⟨number, rfl⟩
      | _ => cases valid

theorem numberAt_canonicalize {entries : List (String × Json)} {number : Rat}
    (read : (Json.objectOf entries).get? name = some (.num number)) :
    (Json.canonicalize (Json.objectOf entries)).get? name = some (.num number) := by
  rw [Json.get?_canonicalize_objectOf, read, Option.map_some, Json.canonicalize]

theorem stepId_canonicalize (entries : List (String × Json)) :
    stepId (Json.canonicalize (Json.objectOf entries)) = stepId (Json.objectOf entries) := by
  rw [stepId, textAt_canonicalize, stepId]

theorem stepType?_canonicalize (entries : List (String × Json)) :
    stepType? (Json.canonicalize (Json.objectOf entries)) = stepType? (Json.objectOf entries) := by
  rw [stepType?, textAt_canonicalize, stepType?]

variable {runtime : Json}

theorem canonical_graph {host : Host} {content graph : Json} {steps : List Json}
    (canonical : canonicalRuntimeDefinition host content = some runtime)
    (graphRead : content.get? "graph" = some graph)
    (stepsRead : graph.get? "steps" = some (.arr steps)) :
    graphSteps runtime = canonicalSteps steps ∧
      (runtime.get? "graph").bind (Json.get? · "entryStepId") =
        (graph.get? "entryStepId").map Json.canonicalize := by
  rw [canonicalRuntimeDefinition, graphRead] at canonical
  simp only [Option.bind_eq_bind, Option.bind_some, stepsRead, elements] at canonical
  obtain ⟨exitRules, -, made⟩ := bind_eq_some_iff.mp canonical
  have made := (Option.some.inj made).symm
  have distinct : (([("entryStepId", graph.get? "entryStepId"),
      ("steps", some (.arr (canonicalSteps steps)))] : List (String × Option Json)).map
        Prod.fst).Nodup := by simp
  have lastEntries : (([("graph", Json.objectOf (presentFields
      [("entryStepId", graph.get? "entryStepId"), ("steps", some (.arr (canonicalSteps steps)))])),
        ("exitRules", .arr (canonicalExitRules host exitRules))] :
          List (String × Json)).map Prod.fst).Nodup := by simp
  have graphOf : runtime.get? "graph" = some (Json.canonicalize (Json.objectOf (presentFields
      [("entryStepId", graph.get? "entryStepId"), ("steps", some (.arr (canonicalSteps steps)))]))) := by
    rw [made, Json.get?_canonicalize_objectOf, Json.get?_objectOf_append,
      Json.get?_objectOf_of_nodup lastEntries]
    rfl
  constructor
  · rw [graphSteps, graphOf, Option.bind_some, Json.get?_canonicalize_objectOf,
      get?_present distinct]
    have again : (canonicalSteps steps).map Json.canonicalize = canonicalSteps steps := by
      rw [canonicalSteps, map_map]
      exact map_congr_left fun step _ => Json.canonicalize_idem step
    simp [Table.lookup, Json.canonicalize, Json.canonicalizeItems_eq, again]
  · rw [graphOf, Option.bind_some, Json.get?_canonicalize_objectOf, get?_present distinct]
    simp [Table.lookup]

/-! ## Accepted documents -/

/-- Everything that the compiler found on its way to an artifact. -/
structure Accepted (host : Host) (document : Json) (binding : CompileBinding)
    (dependencies : CompileDependencies) (parts : DocumentParts) (trigger : DocumentNode)
    (nodes : List DocumentNode) (edges : List (String × DocumentEdge))
    (targets : List (String × Option Json)) (entry : String) (runtime : Json) : Prop where
  parts_read : documentParts? (ownFields document) = some parts
  clean : Clean host dependencies.capabilities parts trigger nodes edges
  held : ∀ edge ∈ edges, ∃ value, targetAt targets edge.2.slot = some value ∧
    host.text value = some edge.2.target
  content : ContentAccepted (assembleContent targets parts.settings trigger nodes
    binding.ownerTeamId) dependencies.evaluator (assembleGraph targets trigger nodes) entry
      (nodes.map (buildStep targets))
  canonical : canonicalRuntimeDefinition host (assembleContent targets parts.settings trigger nodes
    binding.ownerTeamId) = some runtime

section
variable {targets : List (String × Option Json)} {settings : List (String × Json)}
  {trigger : DocumentNode} {nodes : List DocumentNode} {ownerTeamId : String}

theorem assembleContent_graph :
    (assembleContent targets settings trigger nodes ownerTeamId).get? "graph" =
      some (assembleGraph targets trigger nodes) := by
  rw [assembleContent, get?_present (by simp)]
  simp [Table.lookup]

theorem assembleGraph_steps :
    (assembleGraph targets trigger nodes).get? "steps" =
      some (.arr (nodes.map (buildStep targets))) := by
  rw [assembleGraph, Json.get?_objectOf_of_nodup (by simp)]
  rfl

theorem assembleGraph_entry :
    (assembleGraph targets trigger nodes).get? "entryStepId" =
      some (Json.orElse (targetAt targets (slot trigger.nodeId "start")) (.str "")) := by
  rw [assembleGraph, Json.get?_objectOf_of_nodup (by simp)]
  rfl

end

variable {diagnostics : List JourneyDiagnostic} {artifact : JourneyCompileArtifact}

theorem assembleArtifact_definition {host : Host} {binding : CompileBinding}
    {capabilities : List JourneyRuntimeCapability}
    (made : assembleArtifact host binding capabilities diagnostics runtime = some artifact) :
    artifact.runtimeDefinition = runtime := by
  obtain ⟨references, -, made⟩ := bind_eq_some_iff.mp made
  obtain ⟨canonical, -, made⟩ := bind_eq_some_iff.mp made
  cases made
  rfl

theorem not_blocked (passes : ¬ journeyDiagnosticsBlockPublish diagnostics = true) :
    diagnostics = [] := by
  cases diagnostics with
  | nil => rfl
  | cons => exact absurd rfl passes

theorem compile_accepted {host : Host} {document : Json} {binding : CompileBinding}
    {dependencies : CompileDependencies} {result : CompileJourneyResult}
    (run : compileJourneyDraft host document binding dependencies = some result)
    (made : result.artifact = some artifact) :
    ∃ parts trigger nodes edges targets entry,
      Accepted host document binding dependencies parts trigger nodes edges targets entry
        artifact.runtimeDefinition := by
  obtain ⟨diagnostics, validated, run⟩ := bind_eq_some_iff.mp run
  split at run
  · cases run
    cases made
  · rename_i passes
    cases not_blocked passes
    obtain ⟨fields, parts, trigger, nodes, edges, rfl, -, partsRead, clean⟩ :=
      validate_clean.mp validated
    obtain ⟨foundParts, found, run⟩ := bind_eq_some_iff.mp run
    cases partsRead.symm.trans found
    obtain ⟨targets, built, -, held⟩ := buildRuntimeContent_clean clean binding.ownerTeamId
    obtain ⟨content, builds, run⟩ := bind_eq_some_iff.mp run
    cases built.symm.trans builds
    obtain ⟨runtimeCodes, structural, run⟩ := bind_eq_some_iff.mp run
    obtain ⟨runtime, canonical, run⟩ := bind_eq_some_iff.mp run
    simp only [nil_append] at run
    split at run
    · cases run
      cases made
    · rename_i silent
      have silent := not_blocked silent
      rw [sortJourneyDiagnostics_eq_nil, append_eq_nil_iff, map_eq_nil_iff] at silent
      obtain ⟨rfl, -⟩ := silent
      obtain ⟨assembled, sealed, same⟩ := bind_eq_some_iff.mp run
      cases same
      cases made
      rw [assembleArtifact_definition sealed]
      obtain ⟨graph, entry, steps, content⟩ :=
        validateJourneyDefinitionStructure_accepts.mp structural
      cases assembleContent_graph.symm.trans content.graphRead
      cases assembleGraph_steps.symm.trans content.graphAccepted.stepsRead
      exact ⟨parts, trigger, nodes, edges, targets, entry, found, clean, held, content, canonical⟩

section
variable {host : Host} {document : Json} {binding : CompileBinding}
  {dependencies : CompileDependencies} {parts : DocumentParts} {trigger : DocumentNode}
  {nodes : List DocumentNode} {edges : List (String × DocumentEdge)}
  {targets : List (String × Option Json)} {entry : String}

section
variable
  (accepted : Accepted host document binding dependencies parts trigger nodes edges targets entry runtime)
include accepted

theorem Accepted.shape (mem : node ∈ nodes) : stepShapeValid (buildStep targets node) = true :=
  accepted.content.graphAccepted.connected.shapes _ (mem_map_of_mem mem)

theorem Accepted.view : viewDocument host document = some ⟨trigger, nodes, edges.map Prod.snd⟩ := by
  have nodesRead : parts.nodes.mapM readNode = some nodes :=
    mapM_of_forall₂ (accepted.clean.nodesClean.imp fun _ _ stepClean => stepClean.read)
  have edgesRead : parts.edges.mapM (readEdge host) = some (edges.map Prod.snd) := by
    refine mapM_of_forall₂ (List.forall₂_map_right_iff.mpr (accepted.clean.edgesClean.imp ?_))
    intro raw edge clean
    obtain ⟨fields, source, target, rfl, -, sourceRead, targetRead, read⟩ := clean.shape
    rw [readEdge, sourceRead, targetRead]
    exact read
  rw [viewDocument, accepted.parts_read]
  simp only [Option.bind_eq_bind, Option.bind_some, accepted.clean.triggerClean.read, nodesRead,
    edgesRead]
  rfl

end

theorem mem_snd {edge : DocumentEdge} (mem : edge ∈ edges.map Prod.snd) :
    ∃ id, (id, edge) ∈ edges := by
  obtain ⟨⟨id, found⟩, inside, rfl⟩ := mem_map.mp mem
  exact ⟨id, inside⟩

section
variable
  (accepted : Accepted host document binding dependencies parts trigger nodes edges targets entry runtime)
include accepted

/-- The entry of the runtime definition is where the start edge leads. -/
theorem Accepted.start : ⟨trigger.nodeId, "start", entry⟩ ∈ edges.map Prod.snd := by
  obtain ⟨type, isTrigger⟩ := accepted.clean.isTrigger
  have declared : "start" ∈ trigger.type.ports := by
    rw [isTrigger]
    exact mem_cons_self
  have listed : trigger ∈ trigger :: nodes := mem_cons_self
  obtain ⟨edge, inside, leaves, through⟩ := accepted.clean.edgeOf listed declared
  obtain ⟨value, stored, text⟩ := accepted.held edge inside
  have read := accepted.content.graphAccepted.entryRead
  have named := accepted.content.graphAccepted.named
  rw [assembleGraph_entry, ← leaves, ← through, ← DocumentEdge.slot, stored, Option.some.injEq]
    at read
  have isEntry : value = .str entry := by
    cases value with
    | null =>
        cases read
        exact absurd named (by decide)
    | _ => exact read
  rw [isEntry, host.text_str, Option.some.injEq] at text
  rw [text, ← leaves, ← through]
  exact mem_map_of_mem inside

theorem Accepted.runtime_graph :
    graphSteps runtime = canonicalSteps (nodes.map (buildStep targets)) ∧
      graphEntry runtime = some entry := by
  obtain ⟨steps, entryRead⟩ :=
    canonical_graph accepted.canonical assembleContent_graph assembleGraph_steps
  refine ⟨steps, ?_⟩
  rw [accepted.content.graphAccepted.entryRead, Option.map_some, Json.canonicalize] at entryRead
  obtain ⟨graph, graphRead, read⟩ := bind_eq_some_iff.mp entryRead
  rw [graphEntry, graphRead, Option.bind_some]
  exact textAt_eq_some.mpr read

theorem Accepted.step_id (mem : node ∈ nodes) : stepId (buildStep targets node) = node.nodeId := by
  obtain ⟨type, isStep⟩ := accepted.clean.isStep node mem
  exact stepId_buildStep isStep (accepted.clean.declared node (mem_cons_of_mem _ mem))

theorem Accepted.find_step (mem : node ∈ nodes) :
    findStep (graphSteps runtime) node.nodeId =
      some (Json.canonicalize (buildStep targets node)) := by
  have ids : (canonicalSteps (nodes.map (buildStep targets))).map stepId =
      (Text.sortBy stepId (nodes.map (buildStep targets))).map stepId := by
    rw [canonicalSteps, map_map]
    refine map_congr_left fun step inside => ?_
    obtain ⟨other, -, rfl⟩ := mem_map.mp (Text.mem_sortBy.mp inside)
    exact stepId_canonicalize _
  have distinct : ((canonicalSteps (nodes.map (buildStep targets))).map stepId).Nodup := by
    rw [ids]
    exact ((Text.sortBy_perm _ _).map _).nodup_iff.mpr
      accepted.content.graphAccepted.connected.distinct
  rw [accepted.runtime_graph.1, findStep_of_nodup distinct]
  refine Table.lookup_of_member distinct ?_ ?_
  · exact mem_map_of_mem (Text.mem_sortBy.mpr (mem_map_of_mem mem))
  · exact (stepId_canonicalize _).trans (accepted.step_id mem)

/-- A field of a compiled step leads where the edge of its port leads. -/
theorem Accepted.moves (mem : node ∈ nodes) (output : (port, field) ∈ node.type.outputs) :
    ∃ target, textAt (Json.canonicalize (buildStep targets node)) field = some target ∧
      ⟨node.nodeId, port, target⟩ ∈ edges.map Prod.snd := by
  obtain ⟨edge, inside, leaves, through, read⟩ :=
    compiled_transition accepted.clean accepted.held mem (accepted.shape mem) output
  refine ⟨edge.2.target, ?_, ?_⟩
  · rw [buildStep, textAt_canonicalize]
    exact read
  · rw [← leaves, ← through]
    exact mem_map_of_mem inside

/-- The planner follows the edges of the document. -/
theorem Accepted.plans (mem : node ∈ nodes) :
    PlansAlong ⟨trigger, nodes, edges.map Prod.snd⟩ node
      (Json.canonicalize (buildStep targets node)) := by
  obtain ⟨type, isStep⟩ := accepted.clean.isStep node mem
  have declared := accepted.clean.declared node (mem_cons_of_mem _ mem)
  have typed : stepType? (Json.canonicalize (buildStep targets node)) = some type :=
    (stepType?_canonicalize _).trans (stepType?_buildStep isStep declared)
  intro now evaluator outcome
  rcases type with _ | _ | _ | _ | kind
  case send =>
    obtain ⟨next, read, edge⟩ := accepted.moves mem
      (show ("next", "next") ∈ node.type.outputs by rw [isStep]; exact mem_cons_self)
    exact ⟨.awaitSend next, by simp [planStep, typed, read], edge⟩
  case wait =>
    obtain ⟨next, read, edge⟩ := accepted.moves mem
      (show ("next", "next") ∈ node.type.outputs by rw [isStep]; exact mem_cons_self)
    have valid := accepted.shape mem
    have built : stepType? (buildStep targets node) = some .wait :=
      stepType?_buildStep isStep declared
    rw [stepShapeValid, built] at valid
    simp only [Bool.and_eq_true] at valid
    obtain ⟨seconds, waits⟩ := positiveAt_read valid.2.1
    have waitsStill := numberAt_canonicalize waits
    rw [← buildStep] at waitsStill
    exact ⟨.wait next (Definition.secondsAfter now seconds),
      by simp [planStep, typed, read, waitsStill], edge⟩
  case branch =>
    obtain ⟨whenTrue, readTrue, edgeTrue⟩ := accepted.moves mem
      (show ("true", "whenTrue") ∈ node.type.outputs by rw [isStep]; exact mem_cons_self)
    obtain ⟨whenFalse, readFalse, edgeFalse⟩ := accepted.moves mem
      (show ("false_or_error", "whenFalse") ∈ node.type.outputs by
        rw [isStep]; exact mem_cons_of_mem _ mem_cons_self)
    have plan : ∃ result, planStep now evaluator (Json.canonicalize (buildStep targets node)) =
        some (.branch (if result = true then whenTrue else whenFalse) result) :=
      ⟨decide (evaluator (((buildStep targets node).canonicalize.get? "expression").getD .null) =
        some true), by simp [planStep, typed, readTrue, readFalse]⟩
    obtain ⟨result, planned⟩ := plan
    refine ⟨_, planned, ?_⟩
    cases result with
    | true => exact edgeTrue
    | false => exact edgeFalse
  case exit =>
    exact ⟨.exit, by simp [planStep, typed], isStep⟩
  case restricted =>
    obtain ⟨next, readNext, edgeNext⟩ := accepted.moves mem
      (show ("accepted", "next") ∈ node.type.outputs by rw [isStep]; exact mem_cons_self)
    obtain ⟨onReject, readReject, edgeReject⟩ := accepted.moves mem
      (show ("rejected", "onReject") ∈ node.type.outputs by
        rw [isStep]; exact mem_cons_of_mem _ mem_cons_self)
    refine ⟨.awaitOwner next onReject, by simp [planStep, typed, readNext, readReject], ?_⟩
    cases outcome with
    | accepted => exact edgeNext
    | rejected => exact edgeReject

theorem Accepted.runtime_edge {source target : String}
    (edge : GraphSearch.Edge (successorsIn (nodes.map (buildStep targets))) source target) :
    GraphSearch.Edge (successors (edges.map Prod.snd)) source target := by
  have distinct := accepted.content.graphAccepted.connected.distinct
  unfold GraphSearch.Edge successorsIn at edge
  rw [findStep_of_nodup distinct] at edge
  split at edge
  · rename_i step found
    have key : stepId step = source := Table.lookup_key found
    obtain ⟨node, mem, rfl⟩ := mem_map.mp (Table.lookup_mem found)
    rw [accepted.step_id mem] at key
    subst key
    exact stepSuccessors_buildStep accepted.clean accepted.held mem (accepted.shape mem) edge
  · cases edge

theorem Accepted.reachable :
    ∀ node ∈ trigger :: nodes, ReflTransGen (GraphSearch.Edge (successors (edges.map Prod.snd)))
      trigger.nodeId node.nodeId := by
  intro node mem
  rcases mem_cons.mp mem with rfl | step
  · exact .refl
  · have start : GraphSearch.Edge (successors (edges.map Prod.snd)) trigger.nodeId entry :=
      mem_successors.mpr ⟨_, accepted.start, rfl, rfl⟩
    have path := accepted.content.graphAccepted.reached _ (mem_map_of_mem step)
    rw [accepted.step_id step] at path
    exact .head start (path.lift id fun _ _ edge => accepted.runtime_edge edge)

end

theorem length_eq_one_of_unique {α : Type} {items : List α} {item : α} (distinct : items.Nodup)
    (mem : item ∈ items) (only : ∀ other ∈ items, other = item) : items.length = 1 := by
  cases items with
  | nil => cases mem
  | cons first rest =>
      cases rest with
      | nil => rfl
      | cons second others =>
          have firstSame := only first mem_cons_self
          have secondSame := only second (mem_cons_of_mem _ mem_cons_self)
          have fresh := (nodup_cons.mp distinct).1
          rw [firstSame, secondSame] at fresh
          exact absurd mem_cons_self fresh

/-- Every slot is the slot of one edge. -/
theorem Accepted.one_edge
    (accepted : Accepted host document binding dependencies parts trigger nodes edges targets entry
      runtime) (mem : node ∈ trigger :: nodes)
    (declared : port ∈ node.type.ports) :
    ((edges.map Prod.snd).filter fun edge => edge.source = node.nodeId && edge.port = port).length =
      1 := by
  obtain ⟨edge, inside, leaves, through⟩ := accepted.clean.edgeOf mem declared
  have slots : ((edges.map Prod.snd).map DocumentEdge.slot).Nodup := by
    rw [map_map]
    exact accepted.clean.slots
  have only : ∀ other ∈ (edges.map Prod.snd).filter
      (fun edge => edge.source = node.nodeId && edge.port = port), other = edge.2 := by
    intro other kept
    obtain ⟨listed, same⟩ := mem_filter.mp kept
    simp only [Bool.and_eq_true, decide_eq_true_eq] at same
    refine inj_on_of_nodup_map slots listed (mem_map_of_mem inside) ?_
    rw [DocumentEdge.slot, DocumentEdge.slot, same.1, same.2, leaves, through]
  have kept : edge.2 ∈ (edges.map Prod.snd).filter
      (fun edge => edge.source = node.nodeId && edge.port = port) :=
    mem_filter.mpr ⟨mem_map_of_mem inside, by simp [leaves, through]⟩
  have distinct := ((List.Nodup.of_map _ slots).filter
    (fun edge => edge.source = node.nodeId && edge.port = port))
  exact length_eq_one_of_unique distinct kept only

end

/-! ## The main result -/

theorem hasPort_cases {type : JourneyNodeType}
    (declared : hasPort type.outputs port = true) : port ∈ type.ports ∨ port ∈ inheritedNames := by
  simpa [hasPort, ports] using declared

theorem Accepted.well_formed {host : Host} {document : Json} {binding : CompileBinding}
    {dependencies : CompileDependencies} {parts : DocumentParts} {trigger : DocumentNode}
    {nodes : List DocumentNode} {edges : List (String × DocumentEdge)}
    {targets : List (String × Option Json)} {entry : String}
    (accepted : Accepted host document binding dependencies parts trigger nodes edges targets entry
      runtime) (own : ∀ edge ∈ edges.map Prod.snd, edge.port ∉ inheritedNames) :
    WellFormedJourney ⟨trigger, nodes, edges.map Prod.snd⟩ runtime := by
  have declared : ∀ edge ∈ edges.map Prod.snd, ∃ node ∈ trigger :: nodes,
      node.nodeId = edge.source ∧ edge.port ∈ node.type.ports := by
    intro edge mem
    obtain ⟨id, inside⟩ := mem_snd mem
    obtain ⟨⟨node, listed, leaves, answers⟩, -⟩ := accepted.clean.ends inside
    rcases hasPort_cases answers with own_ | inherits
    · exact ⟨node, listed, leaves, own_⟩
    · exact absurd inherits (own edge mem)
  have idDistinct := accepted.clean.nodeIds
  constructor
  case triggerFirst => exact accepted.clean.isTrigger
  case stepsAfter => exact accepted.clean.isStep
  case ids_unique => exact idDistinct
  case one_edge_per_port => exact fun node mem port own_ => accepted.one_edge mem own_
  case ports_declared => exact declared
  case edges_between =>
    intro edge mem
    obtain ⟨id, inside⟩ := mem_snd mem
    exact (accepted.clean.ends inside).2
  case acyclic => exact accepted.clean.finite.acyclic
  case reachable => exact accepted.reachable
  case paths_finite => exact accepted.clean.finite
  case paths_end_in_exit =>
    intro node mem stuck
    -- a node with a port has an edge, and only an exit has no port
    have leaves : ∀ port ∈ node.type.ports, False := by
      intro port own_
      obtain ⟨edge, inside, same, -⟩ := accepted.clean.edgeOf mem own_
      have next : edge.2.target ∈ successors (edges.map Prod.snd) node.nodeId :=
        mem_successors.mpr ⟨edge.2, mem_map_of_mem inside, same, rfl⟩
      have none : successors (edges.map Prod.snd) node.nodeId = [] := stuck
      rw [none] at next
      cases next
    have closed : node.type.ports = [] := eq_nil_iff_forall_not_mem.mpr leaves
    have every : ∀ type ∈ journeyNodeTypes, type.ports = [] → type = .step .exit := by
      decide +kernel
    exact every node.type (mem_journeyNodeTypes node.type) closed
  case actions_at_entry =>
    intro node mem kind restricted
    obtain ⟨outcome, edge, inside, leaves, enters⟩ := accepted.clean.placed node mem kind restricted
    refine ⟨outcome, ?_⟩
    -- the trigger has no port but the start port
    obtain ⟨source, listed, same, port⟩ := declared edge.2 (mem_map_of_mem inside)
    have isTrigger : source = trigger :=
      inj_on_of_nodup_map idDistinct listed mem_cons_self (same.trans leaves)
    rw [isTrigger, outcome] at port
    have start : edge.2.port = "start" := by simpa [ports,
      outputs] using port
    have rebuilt : edge.2 = ⟨trigger.nodeId, "start", node.nodeId⟩ := by
      rw [← leaves, ← start, ← enters]
    rw [← rebuilt]
    exact mem_map_of_mem inside
  case entry_planned => exact ⟨entry, accepted.runtime_graph.2, accepted.start⟩
  case steps_planned =>
    exact fun node mem => ⟨_, accepted.find_step mem, accepted.plans mem⟩

/-- An accepted document is a well-formed journey, along whose edges the compiled definition
moves, exactly when no edge leaves a port with an inherited name. -/
theorem accepted_journeys_are_well_formed_iff {host : Host} {document : Json}
    {binding : CompileBinding} {dependencies : CompileDependencies} {result : CompileJourneyResult}
    {artifact : JourneyCompileArtifact}
    (run : compileJourneyDraft host document binding dependencies = some result)
    (made : result.artifact = some artifact) :
    ∃ view, viewDocument host document = some view ∧
      (WellFormedJourney view artifact.runtimeDefinition ↔
        ∀ edge ∈ view.edges, edge.port ∉ inheritedNames) := by
  obtain ⟨parts, trigger, nodes, edges, targets, entry, accepted⟩ := compile_accepted run made
  refine ⟨_, accepted.view, ?_⟩
  constructor
  · intro wellFormed edge mem inherits
    obtain ⟨node, -, -, own⟩ := wellFormed.ports_declared edge mem
    exact not_inherited own inherits
  · exact accepted.well_formed

/-! ### Journeys on a concrete host -/

namespace Sample

def host : Host where
  text
    | .str value => some value
    | .null => some "null"
    | .bool value => some (if value then "true" else "false")
    | _ => none
  numberText value := toString value.num
  sha256 := id
  text_str _ := rfl

def edge (source port target : String) : Json :=
  .obj [("edgeId", .str (source ++ "." ++ port)),
    ("source", .obj [("nodeId", .str source), ("portId", .str port)]),
    ("target", .obj [("nodeId", .str target)])]

def document (edges : List Json) : Json :=
  .obj [("schemaVersion", .str schemaVersion), ("registryVersion", .str registryVersion),
    ("trigger", .obj [("nodeId", .str "t"), ("type", .str "EVENT_TRIGGER"),
      ("config", .obj [("eventType", .str "signup")])]),
    ("nodes", .arr [.obj [("nodeId", .str "w"), ("type", .str "WAIT"),
      ("config", .obj [("waitSeconds", .num 60)])], .obj [("nodeId", .str "x"), ("type", .str "EXIT"),
        ("config", .obj [("reason", .str "done")])]]),
    ("edges", .arr edges),
    ("settings", .obj [("name", .str "n"), ("purpose", .str "SERVICE"),
      ("senderIdentityId", .str "s"), ("goal", .obj [("kind", .str "EVENT"), ("eventType", .str "g")]),
      ("exitRules", .arr [.obj [("kind", .str "GOAL")]]), ("maxDurationDays", .num 30)]),
    ("layout", .obj [("nodes", .obj [])])]

def binding : CompileBinding := ⟨"tenant", "journey", "team", 1, "digest", 0⟩

def dependencies : CompileDependencies := ⟨fun _ => none, journeyRuntimeCapabilities⟩

def compiles (document : Json) : Bool :=
  ((compileJourneyDraft host document binding dependencies).bind
    CompileJourneyResult.artifact).isSome

theorem artifact_of_compiles {document : Json} (accepted : compiles document = true) :
    ∃ result artifact, compileJourneyDraft host document binding dependencies = some result ∧
      result.artifact = some artifact := by
  obtain ⟨artifact, found⟩ := Option.isSome_iff_exists.mp accepted
  obtain ⟨result, run, made⟩ := bind_eq_some_iff.mp found
  exact ⟨result, artifact, run, made⟩

def sound : Json := document [edge "t" "start" "w", edge "w" "next" "x"]

/-- An edge leaves the wait through a name which every object inherits. -/
def inheriting : Json :=
  document [edge "t" "start" "w", edge "w" "next" "x", edge "w" "toString" "x"]

theorem sound_compiles : compiles sound = true := by decide +kernel

theorem inheriting_compiles : compiles inheriting = true := by decide +kernel

end Sample

/-- The compiler accepts a document with an edge from a port that its node does not declare. -/
theorem inherited_ports_are_accepted :
    ∃ result artifact view, compileJourneyDraft Sample.host Sample.inheriting Sample.binding
        Sample.dependencies = some result ∧ result.artifact = some artifact ∧
      viewDocument Sample.host Sample.inheriting = some view ∧
      ¬ WellFormedJourney view artifact.runtimeDefinition := by
  obtain ⟨result, artifact, run, made⟩ := Sample.artifact_of_compiles Sample.inheriting_compiles
  have ports : ((viewDocument Sample.host Sample.inheriting).map fun view =>
      view.edges.map port) = some ["start", "next", "toString"] := by decide +kernel
  obtain ⟨view, viewed, portsAre⟩ := map_eq_some_iff.mp ports
  refine ⟨result, artifact, view, run, made, viewed, fun wellFormed => ?_⟩
  have listed : "toString" ∈ view.edges.map port := by simp [portsAre]
  obtain ⟨edge, mem, named⟩ := mem_map.mp listed
  obtain ⟨node, -, -, own⟩ := wellFormed.ports_declared edge mem
  exact not_inherited own (named ▸ by decide)

theorem accepted_journeys_are_well_formed_iff_for_sample :
    ∃ result artifact, compileJourneyDraft Sample.host Sample.sound Sample.binding
        Sample.dependencies = some result ∧ result.artifact = some artifact ∧
      ∃ view, viewDocument Sample.host Sample.sound = some view ∧
        (WellFormedJourney view artifact.runtimeDefinition ↔
          ∀ edge ∈ view.edges, edge.port ∉ inheritedNames) := by
  obtain ⟨result, artifact, run, made⟩ := Sample.artifact_of_compiles Sample.sound_compiles
  exact ⟨result, artifact, run, made, accepted_journeys_are_well_formed_iff run made⟩

end DContact.Journey.Authoring

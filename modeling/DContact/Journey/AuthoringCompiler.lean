import DContact.Journey.RuntimeDefinition

/-!
# The authoring compiler

An accepted document compiles into a runtime definition: every node becomes the step with its
id, and every edge a scalar field of the step that it leaves. The import goes the other way and
takes a runtime definition apart into nodes and edges. Both end in, or start from, the canonical
form of the definition.
-/

namespace DContact.Journey.Authoring

open Lib

def canonicalJourneyJson (host : Host) (value : Json) : String :=
  Json.stringify host.numberText (Json.canonicalize value)

def journeyAuthoringDigest (host : Host) (value : Json) : String :=
  host.sha256 (canonicalJourneyJson host value)

/-- The elements of an iterable; of the plain data only arrays and texts are. -/
def elements : Option Json → Option (List Json)
  | some (.arr items) => some items
  | some (.str text) => some (text.toList.map fun character => .str (String.singleton character))
  | _ => none

/-- The own properties which a spread copies. -/
def ownFields : Json → List (String × Json)
  | .obj fields => fields
  | _ => []

/-- Entries of an object, of which those without a value read as absent. -/
def presentFields (entries : List (String × Option Json)) : List (String × Json) :=
  entries.filterMap fun entry => entry.2.map fun value => (entry.1, value)

theorem get?_present {entries : List (String × Option Json)}
    (distinct : (entries.map Prod.fst).Nodup) (name : String) :
    (Json.objectOf (presentFields entries)).get? name =
      (Table.lookup Prod.fst name entries).bind Prod.snd := by
  have names : ((presentFields entries).map Prod.fst).Sublist (entries.map Prod.fst) := by
    clear distinct
    induction entries with
    | nil => exact List.Sublist.refl _
    | cons entry rest ih =>
        obtain ⟨key, value⟩ := entry
        cases value with
        | none => exact ih.cons key
        | some value => exact ih.cons_cons key
  rw [Json.get?_objectOf_of_nodup (names.nodup distinct), Json.field_eq_lookup]
  clear names
  induction entries with
  | nil => rfl
  | cons entry rest ih =>
      obtain ⟨key, value⟩ := entry
      obtain ⟨fresh, others⟩ := List.nodup_cons.mp distinct
      have later := ih others
      by_cases same : key = name
      · subst same
        cases value with
        | some value => simp [presentFields, Table.lookup]
        | none =>
            have absent : Table.lookup Prod.fst key rest = none := by
              rw [Table.lookup, List.find?_eq_none]
              intro other mem equal
              exact fresh (List.mem_map.mpr ⟨other, mem, by simpa using equal⟩)
            rw [absent] at later
            simpa [presentFields, Table.lookup] using later
      · cases value with
        | some value | none => simpa [presentFields, Table.lookup, same] using later

def canonicalSteps (steps : List Json) : List Json :=
  (Text.sortBy stepId steps).map Json.canonicalize

def canonicalExitRules (host : Host) (exitRules : List Json) : List Json :=
  Text.sortBy (canonicalJourneyJson host) exitRules

def canonicalRuntimeDefinition (host : Host) (content : Json) : Option Json := do
  let graph ← content.get? "graph"
  let steps ← elements (graph.get? "steps")
  let exitRules ← elements (content.get? "exitRules")
  let ordered := Json.objectOf (presentFields
    [("entryStepId", graph.get? "entryStepId"), ("steps", some (.arr (canonicalSteps steps)))])
  return Json.canonicalize (Json.objectOf (ownFields content ++
    [("graph", ordered), ("exitRules", .arr (canonicalExitRules host exitRules))]))

/-- The capabilities of which the artifact was compiled with. -/
def journeyCapabilityDigest (host : Host) (capabilities : List JourneyRuntimeCapability) : String :=
  journeyAuthoringDigest host (.arr ((Text.sortBy JourneyRuntimeCapability.id capabilities).map
    fun capability => Json.objectOf [("id", .str capability.id),
      ("version", .num capability.version), ("available", .bool capability.available)]))

/-- The reference that a template literal writes, where there is one. -/
def reference (host : Host) (wanted : Bool) (kind : String) (value : Option Json) :
    Option (List String) :=
  if wanted then (host.textOf value).map fun text => [kind ++ text] else some []

def stepReferences (host : Host) (step : Json) : Option (List String) := do
  let team := step.get? "targetOwnerTeamId"
  let contents ← reference host (isTextOf (step.get? "type") "SEND") "CONTENT:" (step.get? "contentRef")
  let teams ← reference host team.isSome "TARGET_TEAM:" team
  return contents ++ teams

/-- What the publication checks with the owners of the things that the journey refers to. -/
def journeyReferenceSet (host : Host) (content : Json) : Option (List String) := do
  let ownerTeam ← host.textOf (content.get? "ownerTeamId")
  let sender ← host.textOf (content.get? "senderIdentityId")
  let trigger ← content.get? "trigger"
  let segments ← reference host (isTextOf (trigger.get? "kind") "SEGMENT_ENTRY") "SEGMENT:"
    (trigger.get? "segmentId")
  let steps ← (graphSteps content).mapM (stepReferences host)
  return Text.sortBy id (Table.firsts id
    (["OWNER_TEAM:" ++ ownerTeam, "SENDER_IDENTITY:" ++ sender] ++ segments ++ steps.flatten))

/-- Whether the end of an edge is there; the target is kept as it was sent. -/
def edgeTarget (host : Host) (edge : Json) : Option (String × Option Json) := do
  let source ← edge.get? "source"
  let target ← edge.get? "target"
  let nodeId ← host.textOf (source.get? "nodeId")
  let portId ← host.textOf (source.get? "portId")
  return (slot nodeId portId, target.get? "nodeId")

def targetsOf (host : Host) (edges : List Json) : Option (List (String × Option Json)) :=
  (edges.mapM (edgeTarget host)).map (Table.ofEntries Prod.fst)

/-- `targets.get(slot)`. -/
def targetAt (targets : List (String × Option Json)) (slot : String) : Option Json :=
  (Table.lookup Prod.fst slot targets).bind Prod.snd

/-- A step node as the validator has let it through. -/
structure DocumentNode where
  nodeId : String
  type : JourneyNodeType
  config : List (String × Json)

def readNode (node : Json) : Option DocumentNode :=
  match textAt node "nodeId", (textAt node "type").bind typeEntry?, node.get? "config" with
  | some nodeId, some (.known type), some (.obj config) => some ⟨nodeId, type, config⟩
  | _, _, _ => none

def transitionsOf (targets : List (String × Option Json)) (node : DocumentNode) :
    List (String × Json) :=
  presentFields (node.type.outputs.map fun output =>
    (output.2, targetAt targets (slot node.nodeId output.1)))

def buildStep (targets : List (String × Option Json)) (node : DocumentNode) : Json :=
  Json.objectOf ([("id", .str node.nodeId), ("type", .str node.type.name)] ++ node.config ++
    transitionsOf targets node)

/-- The kind of a trigger; the validator lets no other node stand there. -/
def triggerKind : JourneyNodeType → String
  | .trigger type => type.kind
  | .step _ => ""

def compileTrigger (trigger : DocumentNode) : Json :=
  Json.objectOf (("kind", .str (triggerKind trigger.type)) :: trigger.config)

def assembleGraph (targets : List (String × Option Json)) (trigger : DocumentNode)
    (nodes : List DocumentNode) : Json :=
  Json.objectOf
    [("entryStepId", Json.orElse (targetAt targets (slot trigger.nodeId "start")) (.str "")),
      ("steps", .arr (nodes.map (buildStep targets)))]

def assembleContent (targets : List (String × Option Json)) (settings : List (String × Json))
    (trigger : DocumentNode) (nodes : List DocumentNode) (ownerTeamId : String) : Json :=
  Json.objectOf (presentFields
    [("name", Json.field settings "name"), ("ownerTeamId", some (.str ownerTeamId)),
      ("purpose", Json.field settings "purpose"),
      ("senderIdentityId", Json.field settings "senderIdentityId"),
      ("trigger", some (compileTrigger trigger)),
      ("graph", some (assembleGraph targets trigger nodes)),
      ("goal", Json.field settings "goal"), ("exitRules", Json.field settings "exitRules"),
      ("maxDurationDays", Json.field settings "maxDurationDays")])

def buildRuntimeContent (host : Host) (parts : DocumentParts) (ownerTeamId : String) :
    Option Json := do
  let targets ← targetsOf host parts.edges
  let trigger ← readNode (.obj parts.trigger)
  let nodes ← parts.nodes.mapM readNode
  return assembleContent targets parts.settings trigger nodes ownerTeamId

structure CompileBinding where
  tenantId : String
  journeyId : String
  ownerTeamId : String
  draftRevision : Nat
  draftDigest : String
  baseHeadVersion : Nat

structure CompileDependencies where
  evaluator : StructuralEvaluator
  capabilities : List JourneyRuntimeCapability

structure JourneyCompileArtifact where
  binding : CompileBinding
  referenceDigest : String
  capabilityDigest : String
  runtimeDefinition : Json
  runtimeHash : String
  diagnosticDigest : String
  compileDigest : String

structure CompileJourneyResult where
  artifact : Option JourneyCompileArtifact
  diagnostics : List JourneyDiagnostic
  stale : Bool := false

def encodePath (path : JourneyDiagnosticPath) : Json :=
  Json.objectOf (optionalText "nodeId" path.nodeId ++ optionalText "edgeId" path.edgeId ++
    optionalText "portId" path.portId ++ optionalText "field" path.field)

def encodeDiagnostic (diagnostic : JourneyDiagnostic) : Json :=
  Json.objectOf ([("code", .str diagnostic.code.name), ("severity", .str "ERROR"),
      ("stage", .str diagnostic.stage.name), ("messageKey", .str diagnostic.messageKey)] ++
    (diagnostic.path.map fun path => ("path", encodePath path)).toList ++
    (if diagnostic.safeParams.isEmpty then []
      else [("safeParams", Json.objectOf diagnostic.safeParams)]) ++
    optionalText "legacyReasonCode" diagnostic.legacyReasonCode)

def artifactFields (binding : CompileBinding)
    (referenceDigest capabilityDigest runtimeHash diagnosticDigest : String)
    (runtimeDefinition : Json) : Json :=
  Json.objectOf [("artifactVersion", .num compileArtifactVersion),
    ("schemaVersion", .str schemaVersion), ("compilerVersion", .str compilerVersion),
    ("authoringRegistryVersion", .str registryVersion), ("tenantId", .str binding.tenantId),
    ("journeyId", .str binding.journeyId), ("draftRevision", .num binding.draftRevision),
    ("draftDigest", .str binding.draftDigest), ("baseHeadVersion", .num binding.baseHeadVersion),
    ("referenceDigest", .str referenceDigest), ("capabilityDigest", .str capabilityDigest),
    ("runtimeDefinition", runtimeDefinition), ("runtimeHash", .str runtimeHash),
    ("diagnosticDigest", .str diagnosticDigest)]

def assembleArtifact (host : Host) (binding : CompileBinding)
    (capabilities : List JourneyRuntimeCapability) (diagnostics : List JourneyDiagnostic)
    (runtimeDefinition : Json) : Option JourneyCompileArtifact := do
  let references ← journeyReferenceSet host runtimeDefinition
  let canonical ← canonicalRuntimeDefinition host runtimeDefinition
  let referenceDigest := journeyAuthoringDigest host (.arr (references.map .str))
  let capabilityDigest := journeyCapabilityDigest host capabilities
  let runtimeHash := journeyAuthoringDigest host canonical
  let diagnosticDigest := journeyAuthoringDigest host (.arr (diagnostics.map encodeDiagnostic))
  let withoutDigest := artifactFields binding referenceDigest capabilityDigest runtimeHash
    diagnosticDigest runtimeDefinition
  return { binding, referenceDigest, capabilityDigest, runtimeDefinition, runtimeHash,
           diagnosticDigest, compileDigest := journeyAuthoringDigest host withoutDigest }

def definitionInvalid (code : JourneyDefinitionValidationCode) : JourneyDiagnostic :=
  { code := .definitionInvalid, stage := .compile, legacyReasonCode := some code.name }

def sizeCheck (host : Host) (runtimeDefinition : Json) : List JourneyDiagnostic :=
  if compiledRuntimeBytesLimit < (canonicalJourneyJson host runtimeDefinition).utf8ByteSize then
    [{ code := .graphLimitExceeded, stage := .compile,
       safeParams := [("limit", .num compiledRuntimeBytesLimit)] }]
  else []

/-- The runtime validator is the last gate of the structure. -/
def compileJourneyDraft (host : Host) (document : Json) (binding : CompileBinding)
    (dependencies : CompileDependencies) : Option CompileJourneyResult := do
  let diagnostics ← validateAuthoringDocument host dependencies.capabilities document
  if journeyDiagnosticsBlockPublish diagnostics then
    return { artifact := none, diagnostics }
  let parts ← documentParts? (ownFields document)
  let content ← buildRuntimeContent host parts binding.ownerTeamId
  let runtimeCodes ← validateJourneyDefinitionStructure content dependencies.evaluator
  let runtimeDefinition ← canonicalRuntimeDefinition host content
  let all := sortJourneyDiagnostics (diagnostics ++ runtimeCodes.map definitionInvalid ++
    sizeCheck host runtimeDefinition)
  if journeyDiagnosticsBlockPublish all then
    return { artifact := none, diagnostics := all }
  let artifact ← assembleArtifact host binding dependencies.capabilities all runtimeDefinition
  return { artifact := some artifact, diagnostics := all }

end DContact.Journey.Authoring

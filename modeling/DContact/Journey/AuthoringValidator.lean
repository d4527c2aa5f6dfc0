import DContact.Journey.AuthoringCatalog
import DContact.Lib.GraphSearch

/-!
# The validator of authoring documents

The validator takes unknown JSON and collects what is wrong with it, stage by stage: schema,
registry and node fields, ports and cardinality, cycles and placement, capability, limits. An
operation of the host that throws ends the validation without an answer.
-/

namespace DContact.Journey.Authoring

open Lib

def schemaInvalid (path : JourneyDiagnosticPath) : JourneyDiagnostic :=
  { code := .authoringSchemaInvalid, path := some path }

/-- `value === expected` for a text. -/
def isTextOf (value : Option Json) (expected : String) : Bool :=
  match value with
  | some (.str text) => text == expected
  | _ => false

def closedKeys (value : List (String × Json)) (allowed : List String)
    (path : JourneyDiagnosticPath) : List JourneyDiagnostic :=
  (value.filter fun entry => entry.1 ∉ allowed).map fun entry =>
    { code := .nodeFieldUnknown, path := some { path with field := some entry.1 } }

def outcomeTypes : List String :=
  ["INTERACTION_ABANDONED", "INTERACTION_DISPOSITION_RECORDED", "FEEDBACK_DETRACTOR_RECORDED"]

/-- The rules of a trigger's configuration beyond the shape of its fields. -/
def triggerRules (host : Host) (type : TypeEntry) (config : List (String × Json))
    (nodeId : String) : Option (List JourneyDiagnostic) :=
  match type with
  | .known (.trigger .interactionOutcomeTrigger) => do
      let outcomeType ← host.textOf (Json.field config "outcomeType")
      if outcomeType ∈ outcomeTypes ∧
          isTextOf (Json.field config "coalescingPolicy") "PER_LOGICAL_OUTCOME" then
        return []
      return [schemaInvalid { nodeId := some nodeId, field := some "config.outcomeType" }]
  | .known (.trigger .segmentEntryTrigger) =>
      if isTextOf (Json.field config "coalescingPolicy") "PER_SEGMENT_ENTRY" then some []
      else some [schemaInvalid { nodeId := some nodeId, field := some "config.coalescingPolicy" }]
  | _ => some []

def invalidFields (specs : List ConfigField) (config : List (String × Json)) (nodeId : String) :
    List JourneyDiagnostic :=
  (specs.filter fun spec =>
      let value := Json.field config spec.name
      !(value.isNone && spec.optional) && !fieldValid spec.kind value).map fun spec =>
    schemaInvalid { nodeId := some nodeId, field := some ("config." ++ spec.name) }

def validateConfig (host : Host) (type : TypeEntry) (node : List (String × Json))
    (nodeId : String) : Option (List JourneyDiagnostic) :=
  match Json.field node "config" with
  | some (.obj config) => do
      let unknown := (config.filter fun entry => entry.1 ∉ type.configFields.map ConfigField.name).map
        fun entry =>
          ({ code := .nodeFieldUnknown,
             path := some { nodeId := some nodeId, field := some ("config." ++ entry.1) } } :
            JourneyDiagnostic)
      let rules ← triggerRules host type config nodeId
      return unknown ++ invalidFields type.configFields config nodeId ++ rules
  | _ => some [schemaInvalid { nodeId := some nodeId, field := some "config" }]

def topLevelFields : List String :=
  ["schemaVersion", "registryVersion", "trigger", "nodes", "edges", "settings", "layout"]

def settingsFields : List String :=
  ["name", "purpose", "senderIdentityId", "goal", "exitRules", "maxDurationDays"]

def nodeFields : List String := ["nodeId", "type", "label", "config", "templateNodeKey"]

def triggerFields : List String := ["nodeId", "type", "label", "config"]

def unsupportedFields : List String := ["nodeId", "type", "sourceType", "source"]

def edgeFields : List String := ["edgeId", "source", "target"]

/-- The parts of a document whose fields have the shapes that the later stages read. -/
structure DocumentParts where
  trigger : List (String × Json)
  nodes : List Json
  edges : List Json
  settings : List (String × Json)

def documentParts? (document : List (String × Json)) : Option DocumentParts :=
  match Json.field document "trigger", Json.field document "nodes",
      Json.field document "edges", Json.field document "settings" with
  | some (.obj trigger), some (.arr nodes), some (.arr edges), some (.obj settings) =>
      some ⟨trigger, nodes, edges, settings⟩
  | _, _, _, _ => none

def isArray : Option Json → Bool
  | some (.arr _) => true
  | _ => false

def fieldCheck (holds : Bool) (code : JourneyAuthoringErrorCode) (field : String) :
    List JourneyDiagnostic :=
  if holds then [] else [{ code, path := some { field := some field } }]

def checkSchema (document : List (String × Json)) : List JourneyDiagnostic :=
  ((document.filter fun entry => entry.1 ∉ topLevelFields).map fun entry =>
      schemaInvalid { field := some entry.1 }) ++
    fieldCheck (isTextOf (Json.field document "schemaVersion") schemaVersion)
      .authoringSchemaInvalid "schemaVersion" ++
    fieldCheck (isTextOf (Json.field document "registryVersion") registryVersion)
      .compilerVersionUnsupported "registryVersion" ++
    fieldCheck (isObject (Json.field document "trigger")) .authoringSchemaInvalid "trigger" ++
    fieldCheck (isArray (Json.field document "nodes")) .authoringSchemaInvalid "nodes" ++
    fieldCheck (isArray (Json.field document "edges")) .authoringSchemaInvalid "edges" ++
    fieldCheck (isObject (Json.field document "settings")) .authoringSchemaInvalid "settings" ++
    fieldCheck (isObject ((Json.field document "layout").bind fun layout => layout.get? "nodes"))
      .authoringSchemaInvalid "layout"

/-- The types of the nodes in the order of the document, by node id. -/
abbrev NodeTypes := List (String × TypeEntry)

def NodeTypes.get (types : NodeTypes) (nodeId : String) : Option TypeEntry :=
  (Table.lookup Prod.fst nodeId types).map Prod.snd

def nodeTypeUnsupported (nodeId : String) (safeParams : List (String × Json)) :
    JourneyDiagnostic :=
  { code := .nodeTypeUnsupported, path := some { nodeId := some nodeId }, safeParams }

/-- The type of a node, if it is a text that the registry answers to. -/
def typeOf (node : List (String × Json)) : Option TypeEntry :=
  match Json.field node "type" with
  | some (.str name) => typeEntry? name
  | _ => none

def checkTrigger (host : Host) (trigger : List (String × Json)) :
    Option (List JourneyDiagnostic × NodeTypes) :=
  match Json.field trigger "nodeId" with
  | some (.str triggerId) =>
      if isOpaqueId triggerId then
        match typeOf trigger with
        | some (.known (.trigger type)) => do
            let config ← validateConfig host (.known (.trigger type)) trigger triggerId
            return (closedKeys trigger triggerFields { nodeId := some triggerId } ++ config,
              [(triggerId, .known (.trigger type))])
        | _ => some ([nodeTypeUnsupported triggerId []], [])
      else some ([schemaInvalid { field := some "trigger.nodeId" }], [])
  | _ => some ([schemaInvalid { field := some "trigger.nodeId" }], [])

def checkTemplateNodeKey (node : List (String × Json)) (nodeId : String) :
    List JourneyDiagnostic :=
  match Json.field node "templateNodeKey" with
  | none => []
  | some key =>
      if isOpaqueText (some key) then []
      else [schemaInvalid { nodeId := some nodeId, field := some "templateNodeKey" }]

def isUnsupported (node : List (String × Json)) : Bool :=
  isTextOf (Json.field node "type") "UNSUPPORTED"

def checkNode (host : Host) (index : Nat) (types : NodeTypes) (raw : Json) :
    Option (List JourneyDiagnostic × NodeTypes) :=
  match raw, raw.get? "nodeId" with
  | .obj node, some (.str nodeId) =>
      if !isOpaqueId nodeId then
        some ([schemaInvalid { field := some ("nodes." ++ toString index) }], types)
      else if (types.get nodeId).isSome then
        some ([{ schemaInvalid { nodeId := some nodeId, field := some "nodeId" } with
          safeParams := [("reason", .str "DUPLICATE")] }], types)
      else if isUnsupported node then
        some (closedKeys node unsupportedFields { nodeId := some nodeId } ++
          [nodeTypeUnsupported nodeId [("readOnly", .bool true)]], types ++ [(nodeId, .unsupported)])
      else
        match typeOf node with
        | none | some (.known (.trigger _)) =>
            some ([nodeTypeUnsupported nodeId []], types ++ [(nodeId, .unsupported)])
        | some type => do
            let config ← validateConfig host type node nodeId
            return (closedKeys node nodeFields { nodeId := some nodeId } ++
              checkTemplateNodeKey node nodeId ++ config, types ++ [(nodeId, type)])
  | _, _ => some ([schemaInvalid { field := some ("nodes." ++ toString index) }], types)

def checkNodes (host : Host) : Nat → NodeTypes → List Json →
    Option (List JourneyDiagnostic × NodeTypes)
  | _, types, [] => some ([], types)
  | index, types, raw :: rest => do
      let (found, known) ← checkNode host index types raw
      let (others, final) ← checkNodes host (index + 1) known rest
      return (found ++ others, final)

/-- What the edges that passed their checks have in use. -/
structure EdgeScan where
  used : List String := []
  successors : List (String × String) := []
  edgeIds : List String := []
  entryTargets : List String := []

def slot (nodeId portId : String) : String := nodeId ++ "|" ++ portId

/-- The ends of an edge as the validator reads them. -/
structure DocumentEdge where
  source : String
  port : String
  target : String

def readEnds (host : Host) (source target : List (String × Json)) : Option DocumentEdge := do
  let sourceId ← host.textOrEmpty (Json.field source "nodeId")
  let portId ← host.textOrEmpty (Json.field source "portId")
  let targetId ← host.textOrEmpty (Json.field target "nodeId")
  return ⟨sourceId, portId, targetId⟩

/-- `portId in outputs`. -/
def hasPort (outputs : List (String × String)) (portId : String) : Bool :=
  portId ∈ outputs.map Prod.fst || portId ∈ inheritedNames

def edgeDiagnostic (code : JourneyAuthoringErrorCode) (edgeId nodeId : String)
    (portId : Option String) : JourneyDiagnostic :=
  { code, path := some { edgeId := some edgeId, nodeId := some nodeId, portId } }

def connectEdge (types : NodeTypes) (triggerId : Option Json) (scan : EdgeScan) (edgeId : String)
    (edge : DocumentEdge) : Option (List JourneyDiagnostic × EdgeScan) :=
  match types.get edge.source, types.get edge.target with
  | some fromType, some toType =>
      if fromType = .unsupported ∨ toType = .unsupported then some ([], scan)
      else do
        let outputs ← fromType.outputs
        if !hasPort outputs edge.port then
          return ([edgeDiagnostic .portInvalid edgeId edge.source (some edge.port)], scan)
        if toType.isTrigger then
          return ([edgeDiagnostic .portInvalid edgeId edge.target (some "in")], scan)
        if slot edge.source edge.port ∈ scan.used then
          return ([edgeDiagnostic .portCardinalityInvalid edgeId edge.source (some edge.port)], scan)
        return ([], {
          scan with
          used := scan.used ++ [slot edge.source edge.port]
          successors := scan.successors ++ [(edge.source, edge.target)]
          entryTargets := scan.entryTargets ++
            if isTextOf triggerId edge.source then [edge.target] else [] })
  | fromType, _ =>
      some ([edgeDiagnostic .edgeReferenceInvalid edgeId
        (if fromType.isSome then edge.target else edge.source) none], scan)

def checkEdge (host : Host) (types : NodeTypes) (triggerId : Option Json) (index : Nat)
    (scan : EdgeScan) (raw : Json) : Option (List JourneyDiagnostic × EdgeScan) :=
  match raw, raw.get? "edgeId", raw.get? "source", raw.get? "target" with
  | .obj fields, some (.str edgeId), some (.obj source), some (.obj target) =>
      if Text.isBlank edgeId then
        some ([schemaInvalid { field := some ("edges." ++ toString index) }], scan)
      else
        let unknown := closedKeys fields edgeFields { edgeId := some edgeId }
        if edgeId ∈ scan.edgeIds then
          some (unknown ++ [{ schemaInvalid { edgeId := some edgeId, field := some "edgeId" } with
            safeParams := [("reason", .str "DUPLICATE")] }], scan)
        else do
          let edge ← readEnds host source target
          let (found, after) ← connectEdge types triggerId
            { scan with edgeIds := scan.edgeIds ++ [edgeId] } edgeId edge
          return (unknown ++ found, after)
  | _, _, _, _ => some ([schemaInvalid { field := some ("edges." ++ toString index) }], scan)

def checkEdges (host : Host) (types : NodeTypes) (triggerId : Option Json) : Nat → EdgeScan →
    List Json → Option (List JourneyDiagnostic × EdgeScan)
  | _, scan, [] => some ([], scan)
  | index, scan, raw :: rest => do
      let (found, after) ← checkEdge host types triggerId index scan raw
      let (others, final) ← checkEdges host types triggerId (index + 1) after rest
      return (found ++ others, final)

/-- Every output port compiles into a scalar field, so each has exactly one edge. -/
def checkPorts (used : List String) : NodeTypes → Option (List JourneyDiagnostic)
  | [] => some []
  | (nodeId, type) :: rest => do
      let found ← if type = .unsupported then some [] else type.outputs.map (missing nodeId)
      let others ← checkPorts used rest
      return found ++ others
where
  missing (nodeId : String) (outputs : List (String × String)) : List JourneyDiagnostic :=
    (outputs.filter fun output => slot nodeId output.1 ∉ used).map fun output =>
      { code := .portCardinalityInvalid,
        path := some { nodeId := some nodeId, portId := some output.1 } }

/-- `successors.get(nodeId) ?? []`. -/
def EdgeScan.successorsOf (scan : EdgeScan) (nodeId : String) : List String :=
  (scan.successors.filter fun edge => edge.1 = nodeId).map Prod.snd

/-- The nodes are visited in the order of their ids. -/
def cyclicNodes (types : NodeTypes) (scan : EdgeScan) : List String :=
  (GraphSearch.findCyclic scan.successorsOf (Text.sortBy id (types.map Prod.fst))).getD []

def checkCycles (types : NodeTypes) (scan : EdgeScan) : List JourneyDiagnostic :=
  (Text.sortBy id (cyclicNodes types scan)).map fun nodeId =>
    { code := .graphCycleUnsupported, path := some { nodeId := some nodeId } }

def triggerType (types : NodeTypes) (triggerId : Option Json) : Option TypeEntry :=
  match triggerId with
  | some (.str id) => types.get id
  | _ => none

def checkPlacement (types : NodeTypes) (triggerId : Option Json) (scan : EdgeScan) :
    List JourneyDiagnostic :=
  (types.filter fun node => node.2.isRestricted &&
      (triggerType types triggerId ≠ some (.known (.trigger .interactionOutcomeTrigger)) ||
        node.1 ∉ scan.entryTargets)).map fun node =>
    nodeTypeUnsupported node.1 [("reason", .str "RESTRICTED_PLACEMENT")]

def checkCapability (types : NodeTypes) (capabilities : List JourneyRuntimeCapability) :
    List JourneyDiagnostic :=
  if types.any (fun node => node.2.isRestricted) &&
      !capabilityAvailable capabilities restrictedNodeCapability then
    [{ code := .runtimeCapabilityUnavailable, stage := .compile,
       safeParams := [("capability", .str restrictedNodeCapability)] }]
  else []

def limitCheck (count limit : Nat) (field : String) : List JourneyDiagnostic :=
  if limit < count then
    [{ code := .graphLimitExceeded, path := some { field := some field },
       safeParams := [("limit", .num limit)] }]
  else []

def checkGraph (host : Host) (capabilities : List JourneyRuntimeCapability)
    (parts : DocumentParts) : Option (List JourneyDiagnostic) := do
  let (triggerFound, triggerTypes) ← checkTrigger host parts.trigger
  let (nodesFound, types) ← checkNodes host 0 triggerTypes parts.nodes
  let triggerId := Json.field parts.trigger "nodeId"
  let (edgesFound, scan) ← checkEdges host types triggerId 0 {} parts.edges
  let portsFound ← checkPorts scan.used types
  return closedKeys parts.settings settingsFields {} ++ triggerFound ++ nodesFound ++ edgesFound ++
    portsFound ++ checkCycles types scan ++ checkPlacement types triggerId scan ++
    checkCapability types capabilities ++
    limitCheck parts.nodes.length runtimeStepsLimit "nodes" ++
    limitCheck parts.edges.length controlEdgesLimit "edges"

def validateAuthoringDocument (host : Host) (capabilities : List JourneyRuntimeCapability)
    (document : Json) : Option (List JourneyDiagnostic) :=
  match document with
  | .obj fields =>
      match checkSchema fields, documentParts? fields with
      | [], some parts => (checkGraph host capabilities parts).map sortJourneyDiagnostics
      | found, _ => some (sortJourneyDiagnostics found)
  | _ => some [{ code := .authoringSchemaInvalid }]

end DContact.Journey.Authoring

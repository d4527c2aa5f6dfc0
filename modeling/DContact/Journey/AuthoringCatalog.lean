import DContact.Journey.JourneyDefinition

/-!
# The authoring catalog

An authoring document is JSON from a client. The catalog closes the set of nodes that it may
hold, with the fields of their configuration and their ports. An output port names the field of
the runtime step into which an edge compiles. A node type and a port are looked up as names of
plain objects of the host, which answer to inherited names as well as to their own.
-/

namespace DContact.Journey.Authoring

open Lib

/-- What the host computes on values. A missing text is an error that it throws. -/
structure Host where
  /-- `String(value)`. -/
  text : Json → Option String
  numberText : Rat → String
  sha256 : String → String
  text_str : ∀ value, text (.str value) = some value

/-- `String(value)` and a template literal, where the value may be absent. -/
def Host.textOf (host : Host) : Option Json → Option String
  | none => some "undefined"
  | some value => host.text value

/-- `String(value ?? '')`. -/
def Host.textOrEmpty (host : Host) (value : Option Json) : Option String :=
  host.text (Json.orElse value (.str ""))

/-- The names that every plain object inherits from `Object.prototype`. -/
def inheritedNames : List String :=
  ["constructor", "__defineGetter__", "__defineSetter__", "hasOwnProperty", "__lookupGetter__",
    "__lookupSetter__", "isPrototypeOf", "propertyIsEnumerable", "toString", "valueOf",
    "__proto__", "toLocaleString"]

/-- `^[A-Za-z0-9][A-Za-z0-9_-]{0,127}$`. -/
def isOpaqueId (value : String) : Bool :=
  match value.toList with
  | [] => false
  | first :: rest =>
      first.isAlphanum && decide (rest.length ≤ 127) &&
        rest.all fun character => character.isAlphanum || character == '_' || character == '-'

/-- `typeof value === 'string' && value.trim().length > 0`. -/
def isText : Option Json → Bool
  | some (.str value) => !Text.isBlank value
  | _ => false

def isOpaqueText : Option Json → Bool
  | some (.str value) => isOpaqueId value
  | _ => false

def isObject : Option Json → Bool
  | some (.obj _) => true
  | _ => false

inductive FieldKind where
  | string
  | opaqueId
  | positive
  | nonNegative
  | object

def fieldValid (kind : FieldKind) (value : Option Json) : Bool :=
  match kind with
  | .string => isText value
  | .opaqueId => isOpaqueText value
  | .positive =>
      match value with
      | some (.num number) => decide (0 < number)
      | _ => false
  | .nonNegative =>
      match value with
      | some (.num number) => decide (0 ≤ number)
      | _ => false
  | .object => isObject value

structure ConfigField where
  name : String
  kind : FieldKind
  optional : Bool

def required (name : String) (kind : FieldKind) : ConfigField := ⟨name, kind, false⟩

def optionalField (name : String) (kind : FieldKind) : ConfigField := ⟨name, kind, true⟩

inductive JourneyTriggerNodeType where
  | eventTrigger
  | scheduleTrigger
  | interactionOutcomeTrigger
  | segmentEntryTrigger
  deriving DecidableEq

def JourneyTriggerNodeType.name : JourneyTriggerNodeType → String
  | .eventTrigger => "EVENT_TRIGGER"
  | .scheduleTrigger => "SCHEDULE_TRIGGER"
  | .interactionOutcomeTrigger => "INTERACTION_OUTCOME_TRIGGER"
  | .segmentEntryTrigger => "SEGMENT_ENTRY_TRIGGER"

/-- The restricted types are the owner actions. -/
inductive JourneyStepNodeType where
  | send
  | wait
  | branch
  | exit
  | restricted (kind : JrOwnerActionKind)
  deriving DecidableEq

def JourneyStepNodeType.name : JourneyStepNodeType → String
  | .send => "SEND"
  | .wait => "WAIT"
  | .branch => "BRANCH"
  | .exit => "EXIT"
  | .restricted kind => kind.stepType

inductive JourneyNodeType where
  | trigger (type : JourneyTriggerNodeType)
  | step (type : JourneyStepNodeType)
  deriving DecidableEq

def JourneyNodeType.name : JourneyNodeType → String
  | .trigger type => type.name
  | .step type => type.name

def journeyNodeTypes : List JourneyNodeType :=
  [.trigger .eventTrigger, .trigger .scheduleTrigger, .trigger .interactionOutcomeTrigger,
    .trigger .segmentEntryTrigger, .step .send, .step .wait, .step .branch, .step .exit,
    .step (.restricted .ensureCase), .step (.restricted .admitCampaignTarget),
    .step (.restricted .scheduleCallback)]

theorem mem_journeyNodeTypes (type : JourneyNodeType) : type ∈ journeyNodeTypes := by
  rcases type with trigger | step
  · cases trigger <;> decide
  · rcases step with _ | _ | _ | _ | kind
    · decide
    · decide
    · decide
    · decide
    · cases kind <;> decide

/-- `CONFIG_FIELDS`. -/
def JourneyNodeType.configFields : JourneyNodeType → List ConfigField
  | .trigger .eventTrigger => [required "eventType" .string]
  | .trigger .scheduleTrigger => [required "cron" .string, required "timezone" .string]
  | .trigger .interactionOutcomeTrigger =>
      [required "outcomeType" .string, optionalField "outcomeCode" .opaqueId,
        required "coalescingPolicy" .string]
  | .trigger .segmentEntryTrigger =>
      [required "segmentId" .opaqueId, required "coalescingPolicy" .string]
  | .step .send => [required "channel" .string, required "contentRef" .string]
  | .step .wait => [required "waitSeconds" .positive]
  | .step .branch => [required "expression" .object]
  | .step .exit => [required "reason" .string]
  | .step (.restricted .ensureCase) =>
      [required "caseTypeId" .opaqueId, required "routingIntentRef" .opaqueId,
        required "targetOwnerTeamId" .opaqueId]
  | .step (.restricted .admitCampaignTarget) =>
      [required "campaignId" .opaqueId, required "targetOwnerTeamId" .opaqueId]
  | .step (.restricted .scheduleCallback) =>
      [required "requestedInSeconds" .nonNegative, required "queueId" .opaqueId,
        optionalField "agentId" .opaqueId, required "targetOwnerTeamId" .opaqueId]

/-- `JOURNEY_NODE_PORTS`: the output ports with the runtime field of each. -/
def JourneyNodeType.outputs : JourneyNodeType → List (String × String)
  | .trigger _ => [("start", "entryStepId")]
  | .step .send | .step .wait => [("next", "next")]
  | .step .branch => [("true", "whenTrue"), ("false_or_error", "whenFalse")]
  | .step .exit => []
  | .step (.restricted _) => [("accepted", "next"), ("rejected", "onReject")]

def JourneyNodeType.ports (type : JourneyNodeType) : List String := type.outputs.map Prod.fst

theorem JourneyNodeType.not_inherited {type : JourneyNodeType} {port : String}
    (declared : port ∈ type.ports) : port ∉ inheritedNames := by
  have every : ∀ type ∈ journeyNodeTypes, ∀ port ∈ type.ports, port ∉ inheritedNames := by
    decide +kernel
  exact every type (mem_journeyNodeTypes type) port declared

/-- What a type in a document is to the validator. -/
inductive TypeEntry where
  | known (type : JourneyNodeType)
  | inherited
  | unsupported
  deriving DecidableEq

/-- `type in CONFIG_FIELDS`. No inherited name ends in `_TRIGGER`. -/
def typeEntry? (name : String) : Option TypeEntry :=
  match journeyNodeTypes.find? fun type => type.name = name with
  | some type => some (.known type)
  | none => if name ∈ inheritedNames then some .inherited else none

theorem typeEntry?_name (type : JourneyNodeType) : typeEntry? type.name = some (.known type) := by
  have every : ∀ type ∈ journeyNodeTypes, typeEntry? type.name = some (.known type) := by
    decide +kernel
  exact every type (mem_journeyNodeTypes type)

/-- The fields of a function or of `Object.prototype` are not enumerable. -/
def TypeEntry.configFields : TypeEntry → List ConfigField
  | .known type => type.configFields
  | .inherited | .unsupported => []

/-- What is read as `outputs`; reading it off an inherited value gives nothing to look into. -/
def TypeEntry.outputs : TypeEntry → Option (List (String × String))
  | .known type => some type.outputs
  | .inherited | .unsupported => none

def TypeEntry.isTrigger : TypeEntry → Bool
  | .known (.trigger _) => true
  | _ => false

def TypeEntry.isRestricted : TypeEntry → Bool
  | .known (.step (.restricted _)) => true
  | _ => false

def schemaVersion : String := "J5_AUTHORING_V1"

def registryVersion : String := "J5_PALETTE_V1"

def compileArtifactVersion : Nat := 1

def compilerVersion : String := "J5_COMPILER_V1"

def runtimeStepsLimit : Nat := 256

def controlEdgesLimit : Nat := 512

def compiledRuntimeBytesLimit : Nat := 256 * 1024

inductive JourneyAuthoringErrorCode where
  | authoringSchemaInvalid
  | compilerVersionUnsupported
  | nodeFieldUnknown
  | nodeTypeUnsupported
  | edgeReferenceInvalid
  | portInvalid
  | portCardinalityInvalid
  | graphCycleUnsupported
  | runtimeCapabilityUnavailable
  | graphLimitExceeded
  | definitionInvalid

def JourneyAuthoringErrorCode.name : JourneyAuthoringErrorCode → String
  | .authoringSchemaInvalid => "AUTHORING_SCHEMA_INVALID"
  | .compilerVersionUnsupported => "COMPILER_VERSION_UNSUPPORTED"
  | .nodeFieldUnknown => "NODE_FIELD_UNKNOWN"
  | .nodeTypeUnsupported => "NODE_TYPE_UNSUPPORTED"
  | .edgeReferenceInvalid => "EDGE_REFERENCE_INVALID"
  | .portInvalid => "PORT_INVALID"
  | .portCardinalityInvalid => "PORT_CARDINALITY_INVALID"
  | .graphCycleUnsupported => "GRAPH_CYCLE_UNSUPPORTED"
  | .runtimeCapabilityUnavailable => "RUNTIME_CAPABILITY_UNAVAILABLE"
  | .graphLimitExceeded => "GRAPH_LIMIT_EXCEEDED"
  | .definitionInvalid => "DEFINITION_INVALID"

/-- The order of the stages is the order of the pipeline. -/
inductive JourneyDiagnosticStage where
  | authoring
  | compile

def JourneyDiagnosticStage.name : JourneyDiagnosticStage → String
  | .authoring => "AUTHORING"
  | .compile => "COMPILE"

def JourneyDiagnosticStage.rank : JourneyDiagnosticStage → Nat
  | .authoring => 0
  | .compile => 1

structure JourneyDiagnosticPath where
  nodeId : Option String := none
  edgeId : Option String := none
  portId : Option String := none
  field : Option String := none

/-- Validator and compiler report errors only, so that the severity is the same everywhere. -/
structure JourneyDiagnostic where
  code : JourneyAuthoringErrorCode
  stage : JourneyDiagnosticStage := .authoring
  path : Option JourneyDiagnosticPath := none
  safeParams : List (String × Json) := []
  legacyReasonCode : Option String := none

def JourneyDiagnostic.messageKey (diagnostic : JourneyDiagnostic) : String :=
  "journey.authoring." ++ diagnostic.code.name

/-- The keys of `compareJourneyDiagnostics` after the severity; a missing key comes first. -/
def JourneyDiagnostic.sortKey (diagnostic : JourneyDiagnostic) : List (List Nat) :=
  let path := diagnostic.path.getD {}
  [[diagnostic.stage.rank], Text.codeUnits (path.nodeId.getD ""),
    Text.codeUnits (path.edgeId.getD ""), Text.codeUnits (path.portId.getD ""),
    Text.codeUnits (path.field.getD ""), Text.codeUnits diagnostic.code.name]

def sortJourneyDiagnostics (diagnostics : List JourneyDiagnostic) : List JourneyDiagnostic :=
  diagnostics.insertionSort fun left right => left.sortKey ≤ right.sortKey

@[simp] theorem sortJourneyDiagnostics_eq_nil {diagnostics : List JourneyDiagnostic} :
    sortJourneyDiagnostics diagnostics = [] ↔ diagnostics = [] := by
  constructor
  · intro empty
    have same := List.perm_insertionSort
      (fun left right : JourneyDiagnostic => left.sortKey ≤ right.sortKey) diagnostics
    exact List.nil_perm.mp (empty ▸ same)
  · rintro rfl
    rfl

/-- A diagnostic blocks the publication when it is an error, and each of these is one. -/
def journeyDiagnosticsBlockPublish (diagnostics : List JourneyDiagnostic) : Bool :=
  !diagnostics.isEmpty

structure JourneyRuntimeCapability where
  id : String
  version : Nat
  available : Bool

def restrictedNodeCapability : String := "OWNER_RESULT_CURSOR_CONTINUATION"

/-- `JOURNEY_RUNTIME_CAPABILITIES`. -/
def journeyRuntimeCapabilities : List JourneyRuntimeCapability :=
  [⟨restrictedNodeCapability, 1, true⟩]

def capabilityAvailable (capabilities : List JourneyRuntimeCapability) (id : String) : Bool :=
  capabilities.any fun capability => capability.id = id && capability.available

end DContact.Journey.Authoring

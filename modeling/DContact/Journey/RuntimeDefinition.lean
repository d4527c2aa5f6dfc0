import DContact.Journey.AuthoringValidator

/-!
# Runtime definitions as JSON

The compiler builds a runtime definition as plain data, and the runtime validator is the last
gate of its structure. Both are modelled on JSON here, with the encoding of a typed definition.
The planner on a step of that data agrees with the planner on the typed step.
-/

namespace DContact.Journey.Authoring

open Lib List
open Governance (Instant)
open Definition (JourneyStepPlan ExpressionEvaluator ActionIntent JourneyTrigger
  JourneyExitRule JourneyDefinitionContent secondsAfter planJourneyStep)

/-- `value.name`, which throws on `null` and on what is absent. -/
def readProperty (value : Option Json) (name : String) : Option (Option Json) :=
  match value with
  | none | some .null => none
  | some found => some (found.get? name)

def textAt (value : Json) (name : String) : Option String :=
  match value.get? name with
  | some (.str text) => some text
  | _ => none

theorem textAt_eq_some {value : Json} {name text : String} :
    textAt value name = some text ↔ value.get? name = some (.str text) := by
  unfold textAt
  split
  · rename_i found same
    simp [same]
  · rename_i other
    constructor
    · intro none
      cases none
    · intro same
      exact absurd same (other text)

def stepId (step : Json) : String := (textAt step "id").getD ""

def stepType? (step : Json) : Option JourneyStepNodeType :=
  match (textAt step "type").bind typeEntry? with
  | some (.known (.step type)) => some type
  | _ => none

def optionalText (name : String) : Option String → List (String × Json)
  | none => []
  | some value => [(name, .str value)]

/-- `TRIGGER_KIND`. -/
def JourneyTriggerNodeType.kind : JourneyTriggerNodeType → String
  | .eventTrigger => "EVENT"
  | .scheduleTrigger => "SCHEDULE"
  | .interactionOutcomeTrigger => "INTERACTION_OUTCOME"
  | .segmentEntryTrigger => "SEGMENT_ENTRY"

inductive JourneyDefinitionValidationCode where
  | triggerInvalid
  | goalInvalid
  | deliveryDefaultsInvalid
  | exitRuleInvalid
  | maxDurationInvalid
  | graphEntryMissing
  | graphStepIdDuplicate
  | graphStepShapeInvalid
  | graphStepReferenceMissing
  | graphStepUnreachable
  | graphNoTerminalReachable
  | branchExpressionInvalid
  | actionIntentReferenceInvalid
  | entryStepActionIntentRequired
  deriving DecidableEq

def JourneyDefinitionValidationCode.name : JourneyDefinitionValidationCode → String
  | .triggerInvalid => "TRIGGER_INVALID"
  | .goalInvalid => "GOAL_INVALID"
  | .deliveryDefaultsInvalid => "DELIVERY_DEFAULTS_INVALID"
  | .exitRuleInvalid => "EXIT_RULE_INVALID"
  | .maxDurationInvalid => "MAX_DURATION_INVALID"
  | .graphEntryMissing => "GRAPH_ENTRY_MISSING"
  | .graphStepIdDuplicate => "GRAPH_STEP_ID_DUPLICATE"
  | .graphStepShapeInvalid => "GRAPH_STEP_SHAPE_INVALID"
  | .graphStepReferenceMissing => "GRAPH_STEP_REFERENCE_MISSING"
  | .graphStepUnreachable => "GRAPH_STEP_UNREACHABLE"
  | .graphNoTerminalReachable => "GRAPH_NO_TERMINAL_REACHABLE"
  | .branchExpressionInvalid => "BRANCH_EXPRESSION_INVALID"
  | .actionIntentReferenceInvalid => "ACTION_INTENT_REFERENCE_INVALID"
  | .entryStepActionIntentRequired => "ENTRY_STEP_ACTION_INTENT_REQUIRED"

def verdict (holds : Bool) (code : JourneyDefinitionValidationCode) :
    List JourneyDefinitionValidationCode :=
  if holds then [] else [code]

@[simp] theorem verdict_eq_nil {holds : Bool} {code : JourneyDefinitionValidationCode} :
    verdict holds code = [] ↔ holds = true := by
  cases holds <;> simp [verdict]

/-- The order of the first occurrences is kept. -/
def dedupe (codes : List JourneyDefinitionValidationCode) : List JourneyDefinitionValidationCode :=
  Table.firsts id codes

@[simp] theorem dedupe_eq_nil {codes : List JourneyDefinitionValidationCode} :
    dedupe codes = [] ↔ codes = [] := by
  cases codes with
  | nil | cons code rest => simp [dedupe, Table.firsts]

def textsAt (value : Json) (names : List String) : Bool :=
  names.all fun name => isText (value.get? name)

def opaqueTextsAt (value : Json) (names : List String) : Bool :=
  names.all fun name => isOpaqueText (value.get? name)

/-- `unknownTriggerFields`. -/
def closedTrigger (trigger : Option Json) (allowed : List String) : Bool :=
  match trigger with
  | some (.obj fields) => fields.all fun entry => entry.1 ∈ allowed
  | _ => true

def triggerHolds (trigger : Option Json) (kind : Option Json) : Bool :=
  let read name := trigger.bind (Json.get? · name)
  if isTextOf kind "EVENT" then isText (read "eventType")
  else if isTextOf kind "SCHEDULE" then isText (read "cron") && isText (read "timezone")
  else if isTextOf kind "INTERACTION_OUTCOME" then
    outcomeTypes.any (isTextOf (read "outcomeType")) &&
      ((read "outcomeCode").isNone || isOpaqueText (read "outcomeCode")) &&
      isTextOf (read "coalescingPolicy") "PER_LOGICAL_OUTCOME" &&
      closedTrigger trigger ["kind", "outcomeType", "outcomeCode", "coalescingPolicy"]
  else if isTextOf kind "SEGMENT_ENTRY" then
    isOpaqueText (read "segmentId") &&
      isTextOf (read "coalescingPolicy") "PER_SEGMENT_ENTRY" &&
      closedTrigger trigger ["kind", "segmentId", "coalescingPolicy"]
  else false

def validateTrigger (trigger : Option Json) : Option (List JourneyDefinitionValidationCode) := do
  let kind ← readProperty trigger "kind"
  return verdict (triggerHolds trigger kind) .triggerInvalid

def validateGoal (goal : Option Json) : Option (List JourneyDefinitionValidationCode) := do
  let kind ← readProperty goal "kind"
  return verdict (isTextOf kind "EVENT" && isText (goal.bind (Json.get? · "eventType"))) .goalInvalid

def validateDeliveryDefaults (content : Json) : List JourneyDefinitionValidationCode :=
  verdict (textsAt content ["purpose", "senderIdentityId"]) .deliveryDefaultsInvalid

def exitRuleHolds (rule : Json) : Bool :=
  ["GOAL", "EVENT", "HIGHER_PRIORITY_JOURNEY"].any (isTextOf (rule.get? "kind")) &&
    (!isTextOf (rule.get? "kind") "EVENT" || isText (rule.get? "eventType"))

def validateExitRules (exitRules : Option Json) : List JourneyDefinitionValidationCode :=
  match exitRules with
  | some (.arr rules) => verdict (!rules.isEmpty && rules.all exitRuleHolds) .exitRuleInvalid
  | _ => [.exitRuleInvalid]

def maxDurationLimit : Int := 3650

def validateMaxDuration (maxDurationDays : Option Json) : List JourneyDefinitionValidationCode :=
  match maxDurationDays.bind Json.integer? with
  | some days => verdict (decide (0 < days) && decide (days ≤ maxDurationLimit)) .maxDurationInvalid
  | none => [.maxDurationInvalid]

def positiveAt (step : Json) (name : String) : Bool := fieldValid .positive (step.get? name)

def nonNegativeAt (step : Json) (name : String) : Bool := fieldValid .nonNegative (step.get? name)

/-- `Boolean(value)`. -/
def isTruthy : Option Json → Bool
  | none | some .null => false
  | some (.bool value) => value
  | some (.num value) => value ≠ 0
  | some (.str value) => value ≠ ""
  | some (.arr _) | some (.obj _) => true

def stepShapeValid (step : Json) : Bool :=
  isText (step.get? "id") &&
    match stepType? step with
    | some .send => textsAt step ["channel", "contentRef", "next"]
    | some .wait => positiveAt step "waitSeconds" && textsAt step ["next"]
    | some .branch => isTruthy (step.get? "expression") && textsAt step ["whenTrue", "whenFalse"]
    | some .exit => textsAt step ["reason"]
    | some (.restricted .ensureCase) =>
        textsAt step ["caseTypeId", "routingIntentRef", "targetOwnerTeamId", "next", "onReject"]
    | some (.restricted .admitCampaignTarget) =>
        textsAt step ["campaignId", "targetOwnerTeamId", "next", "onReject"]
    | some (.restricted .scheduleCallback) =>
        nonNegativeAt step "requestedInSeconds" &&
          textsAt step ["queueId", "targetOwnerTeamId", "next", "onReject"]
    | none => false

def successorFields : JourneyStepNodeType → List String
  | .send | .wait => ["next"]
  | .branch => ["whenTrue", "whenFalse"]
  | .exit => []
  | .restricted _ => ["next", "onReject"]

def stepSuccessors (step : Json) : List String :=
  match stepType? step with
  | some type => (successorFields type).filterMap (textAt step)
  | none => []

def intentReferencesHold (step : Json) : Bool :=
  match stepType? step with
  | some (.restricted .ensureCase) =>
      opaqueTextsAt step ["caseTypeId", "routingIntentRef", "targetOwnerTeamId"]
  | some (.restricted .admitCampaignTarget) =>
      opaqueTextsAt step ["campaignId", "targetOwnerTeamId"]
  | some (.restricted .scheduleCallback) =>
      opaqueTextsAt step ["queueId"] &&
        ((step.get? "agentId").isNone || isOpaqueText (step.get? "agentId")) &&
        opaqueTextsAt step ["targetOwnerTeamId"]
  | _ => true

def validateActionIntentReferences (steps : List Json) : List JourneyDefinitionValidationCode :=
  verdict (steps.all intentReferencesHold) .actionIntentReferenceInvalid

def stepsById (steps : List Json) : List Json := Table.firsts stepId steps

def findStep (steps : List Json) (id : String) : Option Json := Table.lookup stepId id (stepsById steps)

def successorsIn (steps : List Json) (id : String) : List String :=
  match findStep steps id with
  | some step => stepSuccessors step
  | none => []

def stepCodes (steps : List Json) (step : Json) : List JourneyDefinitionValidationCode :=
  if stepShapeValid step then
    (stepSuccessors step).flatMap fun successor =>
      verdict (findStep steps successor).isSome .graphStepReferenceMissing
  else [.graphStepShapeInvalid]

def referenceCodes (entryStepId : String) (steps : List Json) :
    List JourneyDefinitionValidationCode :=
  List.replicate (steps.length - (stepsById steps).length) .graphStepIdDuplicate ++
    verdict (findStep steps entryStepId).isSome .graphEntryMissing ++
    steps.flatMap (stepCodes steps)

def reachableSteps (entryStepId : String) (steps : List Json) : List String :=
  (GraphSearch.reachableFrom (successorsIn steps) (steps.map stepId) entryStepId).getD []

def isType (step : Json) (type : JourneyStepNodeType) : Bool := stepType? step = some type

def reachabilityCodes (entryStepId : String) (steps : List Json) :
    List JourneyDefinitionValidationCode :=
  let reachable := reachableSteps entryStepId steps
  verdict (steps.all fun step => stepId step ∈ reachable) .graphStepUnreachable ++
    verdict (steps.any fun step => isType step .exit && stepId step ∈ reachable)
      .graphNoTerminalReachable

def branchStepsOf (steps : List Json) : List Json :=
  (stepsById steps).filter fun step => isType step .branch

def validateGraphStructure (graph : Json) : List JourneyDefinitionValidationCode × List Json :=
  match graph.get? "entryStepId", graph.get? "steps" with
  | some (.str entryStepId), some (.arr steps) =>
      if Text.isBlank entryStepId || steps.isEmpty then ([.graphEntryMissing], [])
      else
        let codes := referenceCodes entryStepId steps
        if codes.isEmpty then (dedupe (reachabilityCodes entryStepId steps), branchStepsOf steps)
        else (dedupe codes, branchStepsOf steps)
  | _, _ => ([.graphEntryMissing], [])

def structuralErrorCodes : List String :=
  ["INVALID_EXPRESSION", "UNSUPPORTED_VERSION", "LIMIT_EXCEEDED", "FORBIDDEN_REFERENCE"]

/-- What the evaluator answers to an expression in an empty context: the code of an error. -/
abbrev StructuralEvaluator := Json → Option String

def expressionHolds (evaluator : StructuralEvaluator) (step : Json) : Bool :=
  match evaluator ((step.get? "expression").getD .null) with
  | some code => code ∉ structuralErrorCodes
  | none => true

def validateBranchExpressions (branchSteps : List Json) (evaluator : StructuralEvaluator) :
    List JourneyDefinitionValidationCode :=
  verdict (branchSteps.all (expressionHolds evaluator)) .branchExpressionInvalid

def graphSteps (content : Json) : List Json :=
  match (content.get? "graph").bind (Json.get? · "steps") with
  | some (.arr steps) => steps
  | _ => []

def graphEntry (content : Json) : Option String :=
  (content.get? "graph").bind (textAt · "entryStepId")

def isActionIntent (step : Json) : Bool :=
  match stepType? step with
  | some (.restricted _) => true
  | _ => false

def validateOutcomeTriggerEntryStep (content : Json) : List JourneyDefinitionValidationCode :=
  if isTextOf ((content.get? "trigger").bind (Json.get? · "kind")) "INTERACTION_OUTCOME" then
    let entryStep := (graphSteps content).find? fun step => some (stepId step) = graphEntry content
    verdict (entryStep.any isActionIntent) .entryStepActionIntentRequired
  else []

/-- The checks that need a sound graph. -/
def graphDependentCodes (content : Json) (branchSteps : List Json)
    (evaluator : StructuralEvaluator) : List JourneyDefinitionValidationCode :=
  validateBranchExpressions branchSteps evaluator ++
    validateActionIntentReferences (graphSteps content) ++ validateOutcomeTriggerEntryStep content

def validateJourneyDefinitionStructure (content : Json) (evaluator : StructuralEvaluator) :
    Option (List JourneyDefinitionValidationCode) := do
  let graph ← content.get? "graph"
  let graphCodes := (validateGraphStructure graph).1
  let branchSteps := (validateGraphStructure graph).2
  let triggerCodes ← validateTrigger (content.get? "trigger")
  let goalCodes ← validateGoal (content.get? "goal")
  return dedupe (triggerCodes ++ goalCodes ++ validateDeliveryDefaults content ++
    validateExitRules (content.get? "exitRules") ++
    validateMaxDuration (content.get? "maxDurationDays") ++ graphCodes ++
    if graphCodes.isEmpty then graphDependentCodes content branchSteps evaluator else [])

variable {steps : List Json} {id : String}

theorem isText_iff {value : Option Json} :
    isText value = true ↔ ∃ text, value = some (.str text) ∧ Text.isBlank text = false := by
  unfold isText
  split
  · rename_i text
    simp
  · rename_i other
    constructor
    · intro clean
      cases clean
    · rintro ⟨text, rfl, -⟩
      exact absurd rfl (other text)

theorem shape_successors {step : Json} {type : JourneyStepNodeType}
    (typed : stepType? step = some type) (valid : stepShapeValid step = true) :
    ∀ field ∈ successorFields type, isText (step.get? field) = true := by
  unfold stepShapeValid at valid
  rw [typed] at valid
  rcases type with _ | _ | _ | _ | kind
  case restricted =>
    cases kind <;> simp_all [textsAt, successorFields]
  all_goals simp_all [textsAt, successorFields]

theorem findStep_of_nodup (distinct : (steps.map stepId).Nodup) (id : String) :
    findStep steps id = Table.lookup stepId id steps := by
  rw [findStep, stepsById, Table.firsts_eq_self.mpr distinct]

theorem findStep_isSome (distinct : (steps.map stepId).Nodup) :
    (findStep steps id).isSome = true ↔ ∃ step ∈ steps, stepId step = id := by
  rw [findStep_of_nodup distinct, Table.lookup, find?_isSome]
  simp

structure StepsConnected (entryStepId : String) (steps : List Json) : Prop where
  distinct : (steps.map stepId).Nodup
  entry : ∃ step ∈ steps, stepId step = entryStepId
  shapes : ∀ step ∈ steps, stepShapeValid step = true
  references : ∀ step ∈ steps, ∀ successor ∈ stepSuccessors step, ∃ other ∈ steps,
    stepId other = successor

variable {entryStepId : String}

theorem referenceCodes_eq_nil :
    referenceCodes entryStepId steps = [] ↔ StepsConnected entryStepId steps := by
  have counted : steps.length - (stepsById steps).length = 0 ↔ (steps.map stepId).Nodup := by
    rw [← Table.firsts_eq_self]
    constructor
    · intro none
      exact Table.firsts_sublist.eq_of_length_le (by rw [stepsById] at none; omega)
    · intro same
      rw [stepsById, same, Nat.sub_self]
  have stepClean : ∀ step, stepCodes steps step = [] ↔ stepShapeValid step = true ∧
      ∀ successor ∈ stepSuccessors step, (findStep steps successor).isSome = true := by
    intro step
    unfold stepCodes
    cases stepShapeValid step with
    | false => simp
    | true => simp [flatMap_eq_nil_iff]
  simp only [referenceCodes, append_eq_nil_iff, replicate_eq_nil_iff, counted,
    verdict_eq_nil, flatMap_eq_nil_iff, stepClean]
  constructor
  · rintro ⟨⟨distinct, entry⟩, each⟩
    exact ⟨distinct, (findStep_isSome distinct).mp entry, fun step mem => (each step mem).1,
      fun step mem successor follows =>
        (findStep_isSome distinct).mp ((each step mem).2 successor follows)⟩
  · rintro ⟨distinct, entry, shapes, references⟩
    exact ⟨⟨distinct, (findStep_isSome distinct).mpr entry⟩, fun step mem =>
      ⟨shapes step mem, fun successor follows =>
        (findStep_isSome distinct).mpr (references step mem successor follows)⟩⟩

theorem successorsIn_absent (absent : id ∉ steps.map stepId) :
    successorsIn steps id = [] := by
  have missing : findStep steps id = none := by
    rw [findStep, Table.lookup, find?_eq_none]
    intro step mem same
    exact absent (mem_map.mpr ⟨step, Table.firsts_subset mem, by simpa using same⟩)
  rw [successorsIn, missing]

theorem mem_reachableSteps : id ∈ reachableSteps entryStepId steps ↔
      Relation.ReflTransGen (GraphSearch.Edge (successorsIn steps)) entryStepId id := by
  obtain ⟨found, search⟩ :=
    GraphSearch.reachableFrom_returns (fun _ => successorsIn_absent) entryStepId
  rw [reachableSteps, search, Option.getD_some]
  exact GraphSearch.mem_reachableFrom search

/-- A graph whose every step is reached from the entry, and an exit among them. -/
structure GraphAccepted (graph : Json) (entryStepId : String) (steps : List Json) : Prop where
  entryRead : graph.get? "entryStepId" = some (.str entryStepId)
  stepsRead : graph.get? "steps" = some (.arr steps)
  named : Text.isBlank entryStepId = false
  connected : StepsConnected entryStepId steps
  reached : ∀ step ∈ steps,
    Relation.ReflTransGen (GraphSearch.Edge (successorsIn steps)) entryStepId (stepId step)
  terminal : ∃ step ∈ steps, stepType? step = some .exit

variable {graph : Json}

theorem validateGraphStructure_accepts : (validateGraphStructure graph).1 = [] ↔
      ∃ entryStepId steps, GraphAccepted graph entryStepId steps := by
  unfold validateGraphStructure
  split
  · rename_i entryStepId steps entryRead stepsRead
    split
    · rename_i empty
      constructor
      · intro clean
        cases clean
      · rintro ⟨otherEntry, otherSteps, accepted⟩
        cases entryRead.symm.trans accepted.entryRead
        cases stepsRead.symm.trans accepted.stepsRead
        obtain ⟨step, mem, -⟩ := accepted.connected.entry
        have some_ : steps ≠ [] := ne_nil_of_mem mem
        simp [accepted.named, some_] at empty
    · rename_i nonempty
      have named : Text.isBlank entryStepId = false := by
        cases blank : Text.isBlank entryStepId with
        | false => rfl
        | true => simp [blank] at nonempty
      have reachability : reachabilityCodes entryStepId steps = [] ↔
          (∀ step ∈ steps, stepId step ∈ reachableSteps entryStepId steps) ∧
            ∃ step ∈ steps, stepType? step = some .exit ∧
              stepId step ∈ reachableSteps entryStepId steps := by
        simp [reachabilityCodes, isType]
      simp only [mem_reachableSteps] at reachability
      by_cases clean : referenceCodes entryStepId steps = []
      · have connected : StepsConnected entryStepId steps := referenceCodes_eq_nil.mp clean
        simp only [clean, isEmpty_nil, if_true]
        rw [dedupe_eq_nil, reachability]
        constructor
        · rintro ⟨reached, step, mem, exits, -⟩
          exact ⟨entryStepId, steps, entryRead, stepsRead, named, connected, reached,
            step, mem, exits⟩
        · rintro ⟨otherEntry, otherSteps, accepted⟩
          cases entryRead.symm.trans accepted.entryRead
          cases stepsRead.symm.trans accepted.stepsRead
          obtain ⟨step, mem, exits⟩ := accepted.terminal
          exact ⟨accepted.reached, step, mem, exits, accepted.reached step mem⟩
      · have broken : (referenceCodes entryStepId steps).isEmpty = false := by
          simpa [List.isEmpty_iff] using clean
        simp only [broken, Bool.false_eq_true, if_false]
        rw [dedupe_eq_nil]
        constructor
        · intro connected
          exact absurd connected clean
        · rintro ⟨otherEntry, otherSteps, accepted⟩
          cases entryRead.symm.trans accepted.entryRead
          cases stepsRead.symm.trans accepted.stepsRead
          exact referenceCodes_eq_nil.mpr accepted.connected
  · rename_i other
    constructor
    · intro clean
      cases clean
    · rintro ⟨entryStepId, steps, accepted⟩
      exact absurd accepted.stepsRead (other entryStepId steps accepted.entryRead)

theorem GraphAccepted.branchSteps (accepted : GraphAccepted graph entryStepId steps) :
    (validateGraphStructure graph).2 = steps.filter fun step => isType step .branch := by
  obtain ⟨step, mem, -⟩ := accepted.connected.entry
  have some_ : steps ≠ [] := ne_nil_of_mem mem
  have connected : referenceCodes entryStepId steps = [] :=
    referenceCodes_eq_nil.mpr accepted.connected
  unfold validateGraphStructure
  rw [accepted.entryRead, accepted.stepsRead]
  simp only [accepted.named, Bool.false_or, List.isEmpty_iff, some_, if_false, connected, if_true]
  rw [branchStepsOf, stepsById, Table.firsts_eq_self.mpr accepted.connected.distinct]

/-- A content about which the runtime validator reports nothing. -/
structure ContentAccepted (content : Json) (evaluator : StructuralEvaluator) (graph : Json)
    (entryStepId : String) (steps : List Json) : Prop where
  graphRead : content.get? "graph" = some graph
  graphAccepted : GraphAccepted graph entryStepId steps
  trigger : validateTrigger (content.get? "trigger") = some []
  goal : validateGoal (content.get? "goal") = some []
  deliveryDefaults : validateDeliveryDefaults content = []
  exitRules : validateExitRules (content.get? "exitRules") = []
  maxDuration : validateMaxDuration (content.get? "maxDurationDays") = []
  expressions : ∀ step ∈ steps, isType step .branch = true → expressionHolds evaluator step = true
  references : ∀ step ∈ steps, intentReferencesHold step = true
  entryAction : validateOutcomeTriggerEntryStep content = []

variable {content : Json}

theorem GraphAccepted.graphSteps (accepted : GraphAccepted graph entryStepId steps)
    (graphRead : content.get? "graph" = some graph) : Authoring.graphSteps content = steps := by
  rw [Authoring.graphSteps, graphRead, Option.bind_some, accepted.stepsRead]

theorem validateJourneyDefinitionStructure_accepts {evaluator : StructuralEvaluator} :
    validateJourneyDefinitionStructure content evaluator = some [] ↔
      ∃ graph entryStepId steps, ContentAccepted content evaluator graph entryStepId steps := by
  constructor
  · intro clean
    obtain ⟨graph, graphRead, clean⟩ := Option.bind_eq_some_iff.mp clean
    obtain ⟨triggerCodes, trigger, clean⟩ := Option.bind_eq_some_iff.mp clean
    obtain ⟨goalCodes, goal, clean⟩ := Option.bind_eq_some_iff.mp clean
    simp only [Option.pure_def, Option.some.injEq, dedupe_eq_nil, append_eq_nil_iff] at clean
    obtain ⟨⟨⟨⟨⟨⟨rfl, rfl⟩, delivery⟩, exits⟩, duration⟩, graphCodes⟩, final⟩ := clean
    obtain ⟨entryStepId, steps, accepted⟩ := validateGraphStructure_accepts.mp graphCodes
    rw [graphCodes, isEmpty_nil, if_pos rfl, accepted.branchSteps, graphDependentCodes,
      accepted.graphSteps graphRead] at final
    simp only [append_eq_nil_iff, validateBranchExpressions,
      validateActionIntentReferences, verdict_eq_nil, all_eq_true, mem_filter,
      and_imp] at final
    exact ⟨graph, entryStepId, steps, graphRead, accepted, trigger, goal, delivery, exits, duration,
      final.1.1, final.1.2, final.2⟩
  · rintro ⟨graph, entryStepId, steps, accepted⟩
    have graphCodes : (validateGraphStructure graph).1 = [] :=
      validateGraphStructure_accepts.mpr ⟨entryStepId, steps, accepted.graphAccepted⟩
    have branches : validateBranchExpressions (validateGraphStructure graph).2 evaluator = [] := by
      rw [accepted.graphAccepted.branchSteps]
      rw [validateBranchExpressions, verdict_eq_nil, all_eq_true]
      intro step mem
      obtain ⟨listed, branches⟩ := mem_filter.mp mem
      exact accepted.expressions step listed branches
    have references : validateActionIntentReferences (graphSteps content) = [] := by
      rw [accepted.graphAccepted.graphSteps accepted.graphRead]
      simpa [validateActionIntentReferences] using accepted.references
    rw [validateJourneyDefinitionStructure, accepted.graphRead]
    simp only [Option.bind_eq_bind, Option.bind_some, accepted.trigger, accepted.goal, graphCodes,
      graphDependentCodes, branches, references, accepted.deliveryDefaults, accepted.exitRules, accepted.maxDuration,
      accepted.entryAction]
    rfl

/-- `planJourneyStep` on a step as plain data. -/
def planStep (now : Instant) (evaluator : ExpressionEvaluator) (step : Json) :
    Option JourneyStepPlan := do
  match ← stepType? step with
  | .exit => return .exit
  | .wait =>
      let next ← textAt step "next"
      match step.get? "waitSeconds" with
      | some (.num waitSeconds) => return .wait next (secondsAfter now waitSeconds)
      | _ => none
  | .branch =>
      let whenTrue ← textAt step "whenTrue"
      let whenFalse ← textAt step "whenFalse"
      let branchResult := evaluator ((step.get? "expression").getD .null) = some true
      return .branch (if branchResult then whenTrue else whenFalse) branchResult
  | .send => return .awaitSend (← textAt step "next")
  | .restricted _ => return .awaitOwner (← textAt step "next") (← textAt step "onReject")

end DContact.Journey.Authoring

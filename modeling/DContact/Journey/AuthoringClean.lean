import DContact.Journey.AuthoringCompiler

/-!
# Documents without diagnostics

What it means that a stage of the validator reports nothing, as an equivalence for each stage.
Together they say which documents the validator lets through: the nodes and the edges can be
read, ids and slots are distinct, every declared port is connected, and the graph has no cycle.
-/

namespace DContact.Journey.Authoring

open Lib List TypeEntry NodeTypes
open Option (map_eq_some_iff bind_eq_some_iff)

/-! ## Nodes -/

structure ConfigClean (host : Host) (type : JourneyNodeType) (config : List (String × Json)) :
    Prop where
  declared : ∀ entry ∈ config, entry.1 ∈ type.configFields.map ConfigField.name
  valid : ∀ spec ∈ type.configFields,
    (Json.field config spec.name = none ∧ spec.optional = true) ∨
      fieldValid spec.kind (Json.field config spec.name) = true
  rules : ∀ nodeId, triggerRules host (.known type) config nodeId = some []

variable {type : TypeEntry} {host : Host} {config : List (String × Json)}

theorem triggerRules_clean {first second : String}
    (clean : triggerRules host type config first = some []) :
    triggerRules host type config second = some [] := by
  unfold triggerRules at clean ⊢
  split at clean
  · obtain ⟨outcomeType, read, rest⟩ := bind_eq_some_iff.mp clean
    refine bind_eq_some_iff.mpr ⟨outcomeType, read, ?_⟩
    split at rest
    · rename_i holds
      rw [if_pos holds]
      rfl
    · cases rest
  · split at clean
    · rename_i holds
      rw [if_pos holds]
    · cases clean
  · rfl

variable {α β : Type} {items : List α}

theorem map_filter_eq_nil {fails : α → Bool} {report : α → β} :
    (items.filter fails).map report = [] ↔ ∀ item ∈ items, fails item = false := by
  simp [filter_eq_nil_iff]

variable {node : List (String × Json)} {nodeId : String}

theorem validateConfig_clean {type : JourneyNodeType} :
    validateConfig host (.known type) node nodeId = some [] ↔
      ∃ config, Json.field node "config" = some (.obj config) ∧ ConfigClean host type config := by
  unfold validateConfig
  split
  · rename_i config found
    constructor
    · intro clean
      obtain ⟨rules, checked, rest⟩ := bind_eq_some_iff.mp clean
      obtain ⟨both, rfl⟩ := append_eq_nil_iff.mp (Option.some.inj rest)
      obtain ⟨unknown, invalid⟩ := append_eq_nil_iff.mp both
      rw [map_filter_eq_nil] at unknown
      rw [invalidFields, map_filter_eq_nil] at invalid
      refine ⟨config, found, ?_, ?_, fun _ => triggerRules_clean checked⟩
      · intro entry mem
        simpa [configFields] using unknown entry mem
      · intro spec mem
        have fails := invalid spec mem
        cases valid : fieldValid spec.kind (Json.field config spec.name) with
        | true => exact .inr rfl
        | false =>
            left
            simpa [valid] using fails
    · rintro ⟨other, same, clean⟩
      cases found.symm.trans same
      refine bind_eq_some_iff.mpr ⟨[], clean.rules nodeId, ?_⟩
      refine congrArg some (append_eq_nil_iff.mpr ⟨append_eq_nil_iff.mpr ⟨?_, ?_⟩, rfl⟩)
      · rw [map_filter_eq_nil]
        intro entry mem
        simpa [configFields] using clean.declared entry mem
      · rw [invalidFields, map_filter_eq_nil]
        intro spec mem
        rcases clean.valid spec mem with ⟨absent, optional⟩ | valid
        · simp [absent, optional]
        · simp [valid]
  · rename_i other
    constructor
    · intro clean
      cases clean
    · rintro ⟨config, found, -⟩
      exact absurd found (other config)

variable {allowed : List String}

theorem closedKeys_clean {value : List (String × Json)} {path : JourneyDiagnosticPath} :
    closedKeys value allowed path = [] ↔ ∀ entry ∈ value, entry.1 ∈ allowed := by
  rw [closedKeys, map_filter_eq_nil]
  simp

structure NodeClean (host : Host) (allowed : List String) (raw : Json) (node : DocumentNode) :
    Prop where
  read : readNode raw = some node
  identified : isOpaqueId node.nodeId = true
  closed : ∀ entry ∈ ownFields raw, entry.1 ∈ allowed
  config : ConfigClean host node.type node.config

theorem readNode_obj {type : JourneyNodeType} (id : Json.field node "nodeId" = some (.str nodeId))
    (known : typeOf node = some (.known type))
    (found : Json.field node "config" = some (.obj config)) :
    readNode (.obj node) = some ⟨nodeId, type, config⟩ := by
  have idText : textAt (.obj node) "nodeId" = some nodeId := textAt_eq_some.mpr id
  have typeText : (textAt (.obj node) "type").bind typeEntry? = some (.known type) := by
    unfold typeOf at known
    split at known
    · rename_i name hit
      have read : textAt (.obj node) "type" = some name := textAt_eq_some.mpr hit
      rw [read]
      exact known
    · cases known
  have configObject : Json.get? (.obj node) "config" = some (.obj config) := found
  unfold readNode
  rw [idText, typeText, configObject]

theorem readNode_inv {read : DocumentNode} (found : readNode (.obj node) = some read) :
    Json.field node "nodeId" = some (.str read.nodeId) ∧
      typeOf node = some (.known read.type) ∧
      Json.field node "config" = some (.obj read.config) := by
  unfold readNode at found
  split at found
  · rename_i nodeId type config idText typeText configObject
    cases found
    refine ⟨textAt_eq_some.mp idText, ?_, configObject⟩
    obtain ⟨name, hit, known⟩ := bind_eq_some_iff.mp typeText
    have same : Json.field node "type" = some (.str name) := textAt_eq_some.mp hit
    unfold typeOf
    rw [same]
    exact known
  · cases found

variable {types : NodeTypes}

theorem checkTrigger_clean {trigger : List (String × Json)} :
    checkTrigger host trigger = some ([], types) ↔
      ∃ node type, NodeClean host triggerFields (.obj trigger) node ∧ node.type = .trigger type ∧
        types = [(node.nodeId, .known node.type)] := by
  constructor
  · intro clean
    unfold checkTrigger at clean
    split at clean
    · rename_i triggerId id
      split at clean
      · rename_i identified
        split at clean
        · rename_i type known
          obtain ⟨config, checked, rest⟩ := bind_eq_some_iff.mp clean
          obtain ⟨reported, sameTypes⟩ := Prod.mk.inj (Option.some.inj rest)
          obtain ⟨closed, rfl⟩ := append_eq_nil_iff.mp reported
          obtain ⟨config, found, configClean⟩ := validateConfig_clean.mp checked
          refine ⟨⟨triggerId, .trigger type, config⟩, type, ⟨readNode_obj id known found,
            identified, closedKeys_clean.mp closed, configClean⟩, rfl, sameTypes.symm⟩
        · cases clean
      · cases clean
    · cases clean
  · rintro ⟨node, type, clean, isTrigger, rfl⟩
    obtain ⟨id, known, found⟩ := readNode_inv clean.read
    rw [isTrigger] at known ⊢
    have checked : validateConfig host (.known (.trigger type)) trigger node.nodeId = some [] :=
      validateConfig_clean.mpr ⟨node.config, found, isTrigger ▸ clean.config⟩
    unfold checkTrigger
    rw [id]
    simp only [clean.identified, if_true, known]
    rw [checked]
    have closed : closedKeys trigger triggerFields { nodeId := some node.nodeId } = [] :=
      closedKeys_clean.mpr clean.closed
    simp [closed]

structure StepClean (host : Host) (raw : Json) (node : DocumentNode) : Prop extends
    NodeClean host nodeFields raw node where
  isStep : ∃ type, node.type = .step type
  template : ∀ key, raw.get? "templateNodeKey" = some key → isOpaqueText (some key) = true

def entryOf (node : DocumentNode) : String × TypeEntry := (node.nodeId, .known node.type)

theorem checkTemplateNodeKey_clean : checkTemplateNodeKey node nodeId = [] ↔
      ∀ key, Json.field node "templateNodeKey" = some key → isOpaqueText (some key) = true := by
  unfold checkTemplateNodeKey
  split
  · rename_i absent
    simp [absent]
  · rename_i key found
    simp [found]

theorem typeEntry?_unsupported : typeEntry? "UNSUPPORTED" = none := by decide +kernel

theorem not_unsupported (known : typeOf node = some type) : isUnsupported node = false := by
  unfold typeOf at known
  split at known
  · rename_i name hit
    unfold isUnsupported isTextOf
    rw [hit]
    by_contra same
    have equal : name = "UNSUPPORTED" := by simpa using same
    rw [equal, typeEntry?_unsupported] at known
    cases known
  · cases known

theorem NodeTypes.get_eq_none : types.get nodeId = none ↔ nodeId ∉ types.map Prod.fst := by
  rw [get, Option.map_eq_none_iff, Table.lookup, find?_eq_none]
  constructor
  · intro absent mem
    obtain ⟨entry, inside, same⟩ := mem_map.mp mem
    exact absent entry inside (by simpa using same)
  · intro absent entry inside same
    exact absent (mem_map.mpr ⟨entry, inside, by simpa using same⟩)

theorem typeOf_cases
    (found : typeOf node = some type) : type = .inherited ∨ ∃ catalogued, type = .known catalogued := by
  unfold typeOf typeEntry? at found
  split at found
  · split at found
    · cases found
      exact .inr ⟨_, rfl⟩
    · split at found <;> cases found
      exact .inl rfl
  · cases found

variable {index : Nat} {raw : Json}

theorem checkNode_clean {after : NodeTypes} (plain : ∀ entry ∈ after, entry.2 ≠ .inherited) :
    checkNode host index types raw = some ([], after) ↔
      ∃ node, StepClean host raw node ∧ node.nodeId ∉ types.map Prod.fst ∧
        after = types ++ [entryOf node] := by
  constructor
  · intro clean
    unfold checkNode at clean
    split at clean
    · rename_i node nodeId id
      split at clean
      · cases clean
      · rename_i identified
        split at clean
        · cases clean
        · rename_i fresh
          split at clean
          · obtain ⟨reported, -⟩ := Prod.mk.inj (Option.some.inj clean)
            have none := (append_eq_nil_iff.mp reported).2
            cases none
          · split at clean
            · cases clean
            · cases clean
            · rename_i type notTrigger typed
              obtain ⟨config, checked, rest⟩ := bind_eq_some_iff.mp clean
              obtain ⟨reported, sameTypes⟩ := Prod.mk.inj (Option.some.inj rest)
              obtain ⟨both, rfl⟩ := append_eq_nil_iff.mp reported
              obtain ⟨closed, template⟩ := append_eq_nil_iff.mp both
              have last : (nodeId, type) ∈ after := by
                rw [← sameTypes]
                exact mem_append_right _ mem_cons_self
              obtain ⟨catalogued, rfl⟩ : ∃ catalogued, type = .known catalogued := by
                rcases typeOf_cases typed with inherits | known
                · exact absurd inherits (plain _ last)
                · exact known
              obtain ⟨config, found, configClean⟩ := validateConfig_clean.mp checked
              refine ⟨⟨nodeId, catalogued, config⟩, ⟨⟨readNode_obj id typed found, ?_,
                closedKeys_clean.mp closed, configClean⟩, ?_, ?_⟩, ?_, sameTypes.symm⟩
              · simpa using identified
              · cases catalogued with
                | trigger type => exact absurd rfl (notTrigger type)
                | step type => exact ⟨type, rfl⟩
              · exact checkTemplateNodeKey_clean.mp template
              · rw [← get_eq_none]
                simpa using fresh
    · cases clean
  · rintro ⟨node, clean, fresh, rfl⟩
    cases raw with
    | obj fields =>
        obtain ⟨id, typed, found⟩ := readNode_inv clean.read
        obtain ⟨type, isStep⟩ := clean.isStep
        have checked : validateConfig host (.known node.type) fields node.nodeId = some [] :=
          validateConfig_clean.mpr ⟨node.config, found, clean.config⟩
        have closed : closedKeys fields nodeFields { nodeId := some node.nodeId } = [] :=
          closedKeys_clean.mpr clean.closed
        have template : checkTemplateNodeKey fields node.nodeId = [] :=
          checkTemplateNodeKey_clean.mpr clean.template
        have supported : isUnsupported fields = false := not_unsupported typed
        have unseen : types.get node.nodeId = none := get_eq_none.mpr fresh
        have idRead : Json.get? (.obj fields) "nodeId" = some (.str node.nodeId) := id
        unfold checkNode
        rw [idRead]
        simp only [clean.identified, unseen, supported, typed, isStep, Option.isSome_none,
          Bool.not_true, Bool.false_eq_true, if_false]
        rw [isStep] at checked
        rw [checked]
        simp [closed, template, entryOf, isStep]
    | _ => cases clean.read

variable {raws : List Json} {final : NodeTypes}

theorem checkNodes_grows {found : List JourneyDiagnostic}
    (run : checkNodes host index types raws = some (found, final)) : types ⊆ final := by
  induction raws generalizing index types found final with
  | nil =>
      cases run
      exact List.Subset.refl _
  | cons raw rest ih =>
      obtain ⟨⟨first, known⟩, one, others⟩ := bind_eq_some_iff.mp run
      obtain ⟨⟨later, end_⟩, tail, same⟩ := bind_eq_some_iff.mp others
      cases same
      refine List.Subset.trans ?_ (ih tail)
      unfold checkNode at one
      split at one
      · split at one
        · cases one
          exact List.Subset.refl _
        · split at one
          · cases one
            exact List.Subset.refl _
          · split at one
            · cases one
              exact subset_append_left _ _
            · split at one
              · cases one
                exact subset_append_left _ _
              · cases one
                exact subset_append_left _ _
              · obtain ⟨config, -, rest⟩ := bind_eq_some_iff.mp one
                cases rest
                exact subset_append_left _ _
      · cases one
        exact List.Subset.refl _

theorem checkNodes_clean (plain : ∀ entry ∈ final, entry.2 ≠ .inherited)
    (distinct : (types.map Prod.fst).Nodup) :
    checkNodes host index types raws = some ([], final) ↔
      ∃ nodes, List.Forall₂ (StepClean host) raws nodes ∧ final = types ++ nodes.map entryOf ∧
        (final.map Prod.fst).Nodup := by
  induction raws generalizing index types with
  | nil =>
      constructor
      · intro clean
        cases clean
        exact ⟨[], .nil, by simp, distinct⟩
      · rintro ⟨nodes, all, rfl, -⟩
        cases all
        simp [checkNodes]
  | cons raw rest ih =>
      constructor
      · intro clean
        obtain ⟨⟨first, between⟩, one, others⟩ := bind_eq_some_iff.mp clean
        obtain ⟨⟨later, end_⟩, tail, same⟩ := bind_eq_some_iff.mp others
        obtain ⟨reported, sameEnd⟩ := Prod.mk.inj (Option.some.inj same)
        obtain ⟨rfl, rfl⟩ := append_eq_nil_iff.mp reported
        have sameEnd : end_ = final := sameEnd
        subst sameEnd
        have grown := checkNodes_grows tail
        obtain ⟨node, nodeClean, fresh, rfl⟩ :=
          (checkNode_clean fun entry mem => plain entry (grown mem)).mp one
        have longer : ((types ++ [entryOf node]).map Prod.fst).Nodup :=
          Table.nodup_append distinct fresh
        obtain ⟨nodes, all, rfl, finalDistinct⟩ := (ih longer).mp tail
        exact ⟨node :: nodes, .cons nodeClean all, by simp, finalDistinct⟩
      · rintro ⟨nodes, all, same, finalDistinct⟩
        cases all with
        | @cons _ node _ nodes nodeClean all =>
            have parts : final = (types ++ [entryOf node]) ++ nodes.map entryOf := by simp [same]
            have longer : ((types ++ [entryOf node]).map Prod.fst).Nodup := by
              rw [parts, map_append] at finalDistinct
              exact finalDistinct.of_append_left
            have fresh : node.nodeId ∉ types.map Prod.fst := by
              intro mem
              rw [map_append] at longer
              exact (nodup_append.mp longer).2.2 _ mem node.nodeId mem_cons_self rfl
            have one : checkNode host index types raw = some ([], types ++ [entryOf node]) := by
              refine (checkNode_clean fun entry mem => plain entry ?_).mpr
                ⟨node, nodeClean, fresh, rfl⟩
              rw [parts]
              exact mem_append_left _ mem
            have tail : checkNodes host (index + 1) (types ++ [entryOf node]) rest =
                some ([], final) := (ih longer).mpr ⟨nodes, all, parts, finalDistinct⟩
            rw [checkNodes, one]
            simp only [Option.bind_eq_bind, Option.bind_some, tail]
            rfl

/-! ## Edges -/

/-- An edge which can be read, between nodes of the document, from a port and not to a trigger. -/
structure EdgeClean (host : Host) (types : NodeTypes) (raw : Json) (edge : String × DocumentEdge) :
    Prop where
  shape : ∃ fields source target, raw = .obj fields ∧
    raw.get? "edgeId" = some (.str edge.1) ∧ raw.get? "source" = some (.obj source) ∧
    raw.get? "target" = some (.obj target) ∧ readEnds host source target = some edge.2
  identified : Text.isBlank edge.1 = false
  closed : ∀ entry ∈ ownFields raw, entry.1 ∈ edgeFields
  ends : ∃ fromType toType, types.get edge.2.source = some (.known fromType) ∧
    types.get edge.2.target = some (.known (.step toType)) ∧
    hasPort fromType.outputs edge.2.port = true

/-- What the scan holds after edges that passed their checks. -/
def EdgeScan.extend (triggerId : Option Json) (scan : EdgeScan) (edge : String × DocumentEdge) :
    EdgeScan where
  used := scan.used ++ [slot edge.2.source edge.2.port]
  successors := scan.successors ++ [(edge.2.source, edge.2.target)]
  edgeIds := scan.edgeIds ++ [edge.1]
  entryTargets := scan.entryTargets ++
    if isTextOf triggerId edge.2.source then [edge.2.target] else []

section
variable (triggerId : Option Json) (scan : EdgeScan) (edges : List (String × DocumentEdge))

theorem extend_all : edges.foldl (EdgeScan.extend triggerId) scan =
    { used := scan.used ++ edges.map fun edge => slot edge.2.source edge.2.port
      successors := scan.successors ++ edges.map fun edge => (edge.2.source, edge.2.target)
      edgeIds := scan.edgeIds ++ edges.map Prod.fst
      entryTargets := scan.entryTargets ++
        (edges.filter fun edge => isTextOf triggerId edge.2.source).map fun edge =>
          edge.2.target } := by
  induction edges generalizing scan with
  | nil => simp
  | cons edge rest ih =>
      rw [foldl_cons, ih]
      by_cases leaves : isTextOf triggerId edge.2.source = true <;>
        simp [EdgeScan.extend, leaves]

end

theorem NodeTypes.get_known
    (known : ∀ entry ∈ types, ∃ type, entry.2 = .known type) (found : types.get nodeId = some type) :
    ∃ catalogued, type = .known catalogued := by
  obtain ⟨⟨id, entry⟩, hit, rfl⟩ := map_eq_some_iff.mp found
  exact known _ (Table.lookup_mem hit)

variable {triggerId : Option Json} {scan : EdgeScan} {after : EdgeScan}

section
variable (known : ∀ entry ∈ types, ∃ type, entry.2 = .known type)
include known

theorem connectEdge_clean {edgeId : String} {edge : DocumentEdge} :
    connectEdge types triggerId { scan with edgeIds := scan.edgeIds ++ [edgeId] } edgeId edge =
        some ([], after) ↔
      (∃ fromType toType, types.get edge.source = some (.known fromType) ∧
        types.get edge.target = some (.known (.step toType)) ∧
        hasPort fromType.outputs edge.port = true) ∧
      slot edge.source edge.port ∉ scan.used ∧ after = scan.extend triggerId (edgeId, edge) := by
  unfold connectEdge
  cases fromFound : types.get edge.source with
  | none => simp
  | some fromEntry =>
      cases toFound : types.get edge.target with
      | none => simp
      | some toEntry =>
          obtain ⟨fromType, rfl⟩ := get_known known fromFound
          obtain ⟨toType, rfl⟩ := get_known known toFound
          cases declared : hasPort fromType.outputs edge.port with
          | false => simp [outputs, declared]
          | true =>
              cases toType with
              | trigger type => simp [outputs, declared, isTrigger]
              | step type =>
                  by_cases taken : slot edge.source edge.port ∈ scan.used
                  · simp [outputs, declared, isTrigger, taken]
                  · simp [outputs, declared, isTrigger, taken]
                    exact eq_comm

theorem checkEdge_clean :
    checkEdge host types triggerId index scan raw = some ([], after) ↔
      ∃ edge, EdgeClean host types raw edge ∧ edge.1 ∉ scan.edgeIds ∧
        slot edge.2.source edge.2.port ∉ scan.used ∧ after = scan.extend triggerId edge := by
  constructor
  · intro clean
    unfold checkEdge at clean
    split at clean
    · rename_i fields edgeId source target idRead sourceRead targetRead
      split at clean
      · cases clean
      · rename_i visible
        split at clean
        · obtain ⟨reported, -⟩ := Prod.mk.inj (Option.some.inj clean)
          cases (append_eq_nil_iff.mp reported).2
        · rename_i fresh
          obtain ⟨edge, read, rest⟩ := bind_eq_some_iff.mp clean
          obtain ⟨⟨found, scanned⟩, connected, same⟩ := bind_eq_some_iff.mp rest
          obtain ⟨reported, sameScan⟩ := Prod.mk.inj (Option.some.inj same)
          obtain ⟨closed, rfl⟩ := append_eq_nil_iff.mp reported
          have sameScan : scanned = after := sameScan
          subst sameScan
          obtain ⟨ends, free, extended⟩ := (connectEdge_clean known).mp connected
          refine ⟨(edgeId, edge), ⟨⟨fields, source, target, rfl, idRead, sourceRead, targetRead,
            read⟩, by simpa using visible, closedKeys_clean.mp closed, ends⟩, fresh, free, extended⟩
    · cases clean
  · rintro ⟨⟨edgeId, edge⟩, clean, fresh, free, rfl⟩
    obtain ⟨fields, source, target, rfl, idRead, sourceRead, targetRead, read⟩ := clean.shape
    have closed : closedKeys fields edgeFields { edgeId := some edgeId } = [] :=
      closedKeys_clean.mpr clean.closed
    have connected : connectEdge types triggerId { scan with edgeIds := scan.edgeIds ++ [edgeId] }
        edgeId edge = some ([], scan.extend triggerId (edgeId, edge)) :=
      (connectEdge_clean known).mpr ⟨clean.ends, free, rfl⟩
    have visible : Text.isBlank edgeId = false := clean.identified
    have unseen : edgeId ∉ scan.edgeIds := fresh
    unfold checkEdge
    rw [idRead, sourceRead, targetRead]
    simp only [visible, unseen, Bool.false_eq_true, if_false, read]
    simp [connected, closed]

theorem checkEdges_clean {final : EdgeScan} (distinctIds : scan.edgeIds.Nodup)
    (distinctSlots : scan.used.Nodup) :
    checkEdges host types triggerId index scan raws = some ([], final) ↔
      ∃ edges, List.Forall₂ (EdgeClean host types) raws edges ∧
        final = edges.foldl (EdgeScan.extend triggerId) scan ∧
        final.edgeIds.Nodup ∧ final.used.Nodup := by
  induction raws generalizing index scan with
  | nil =>
      constructor
      · intro clean
        cases clean
        exact ⟨[], .nil, rfl, distinctIds, distinctSlots⟩
      · rintro ⟨edges, all, rfl, -, -⟩
        cases all
        rfl
  | cons raw rest ih =>
      constructor
      · intro clean
        obtain ⟨⟨first, between⟩, one, others⟩ := bind_eq_some_iff.mp clean
        obtain ⟨⟨later, end_⟩, tail, same⟩ := bind_eq_some_iff.mp others
        obtain ⟨reported, sameEnd⟩ := Prod.mk.inj (Option.some.inj same)
        obtain ⟨rfl, rfl⟩ := append_eq_nil_iff.mp reported
        have sameEnd : end_ = final := sameEnd
        subst sameEnd
        obtain ⟨edge, edgeClean, fresh, free, rfl⟩ := (checkEdge_clean known).mp one
        have ids : (scan.extend triggerId edge).edgeIds.Nodup :=
          nodup_append.mpr ⟨distinctIds, nodup_singleton _, by
            intro old mem new single same
            rw [mem_singleton] at single
            exact fresh (single ▸ same ▸ mem)⟩
        have slots : (scan.extend triggerId edge).used.Nodup :=
          nodup_append.mpr ⟨distinctSlots, nodup_singleton _, by
            intro old mem new single same
            rw [mem_singleton] at single
            exact free (single ▸ same ▸ mem)⟩
        obtain ⟨edges, all, rest, finalIds, finalSlots⟩ := (ih ids slots).mp tail
        exact ⟨edge :: edges, .cons edgeClean all, rest, finalIds, finalSlots⟩
      · rintro ⟨edges, all, rfl, finalIds, finalSlots⟩
        cases all with
        | @cons _ edge _ edges edgeClean all =>
            rw [foldl_cons] at finalIds finalSlots ⊢
            have ids : (scan.extend triggerId edge).edgeIds.Nodup := by
              rw [extend_all] at finalIds
              exact finalIds.of_append_left
            have slots : (scan.extend triggerId edge).used.Nodup := by
              rw [extend_all] at finalSlots
              exact finalSlots.of_append_left
            have fresh : edge.1 ∉ scan.edgeIds := fun mem =>
              (nodup_append.mp ids).2.2 _ mem edge.1 mem_cons_self rfl
            have free : slot edge.2.source edge.2.port ∉ scan.used := fun mem =>
              (nodup_append.mp slots).2.2 _ mem _ mem_cons_self rfl
            have one : checkEdge host types triggerId index scan raw =
                some ([], scan.extend triggerId edge) :=
              (checkEdge_clean known).mpr ⟨edge, edgeClean, fresh, free, rfl⟩
            have tail : checkEdges host types triggerId (index + 1) (scan.extend triggerId edge)
                rest = some ([], edges.foldl (EdgeScan.extend triggerId)
                  (scan.extend triggerId edge)) :=
              (ih ids slots).mpr ⟨edges, all, rfl, finalIds, finalSlots⟩
            rw [checkEdges, one]
            simp only [Option.bind_eq_bind, Option.bind_some, tail]
            rfl

end

/-! ## Ports, cycles and placement -/

theorem checkPorts_clean {used : List String} : checkPorts used types = some [] ↔
      ∀ entry ∈ types, entry.2 = .unsupported ∨
        ∃ outputs, entry.2.outputs = some outputs ∧
          ∀ output ∈ outputs, slot entry.1 output.1 ∈ used := by
  induction types with
  | nil => simp [checkPorts]
  | cons entry rest ih =>
      obtain ⟨nodeId, type⟩ := entry
      rw [forall_mem_cons, ← ih, checkPorts]
      cases type with
      | unsupported =>
          cases others : checkPorts used rest <;> simp
      | inherited => simp [outputs]
      | known type =>
          cases others : checkPorts used rest with
          | none => simp [outputs]
          | some later => simp [outputs, checkPorts.missing, filter_eq_nil_iff]

def successors (edges : List DocumentEdge) (nodeId : String) : List String :=
  (edges.filter fun edge => edge.source = nodeId).map DocumentEdge.target

variable {target : String}

theorem mem_successors {edges : List DocumentEdge} {source : String} :
    target ∈ successors edges source ↔
      ∃ edge ∈ edges, edge.source = source ∧ edge.target = target := by
  simp [successors, and_assoc]

theorem checkCycles_clean : checkCycles types scan = [] ↔ cyclicNodes types scan = [] := by
  rw [checkCycles, map_eq_nil_iff]
  constructor
  · intro empty
    exact nil_perm.mp (empty ▸ Text.sortBy_perm id (cyclicNodes types scan))
  · intro empty
    rw [empty]
    rfl

/-- With edges between known nodes only, the search reports a cycle exactly if there is one. -/
theorem cyclicNodes_clean
    (inside : ∀ edge ∈ scan.successors, edge.1 ∈ types.map Prod.fst ∧ edge.2 ∈ types.map Prod.fst) :
    cyclicNodes types scan = [] ↔ GraphSearch.Terminates scan.successorsOf := by
  have targets : ∀ nodeId, ∀ next ∈ scan.successorsOf nodeId, (nodeId, next) ∈ scan.successors := by
    intro nodeId next mem
    obtain ⟨⟨source, target⟩, kept, rfl⟩ := mem_map.mp mem
    obtain ⟨listed, same⟩ := mem_filter.mp kept
    have same : source = nodeId := by simpa using same
    exact same ▸ listed
  have closed : ∀ nodeId ∈ Text.sortBy id (types.map Prod.fst),
      scan.successorsOf nodeId ⊆ Text.sortBy id (types.map Prod.fst) := fun nodeId _ next edge =>
    Text.mem_sortBy.mpr (inside _ (targets nodeId next edge)).2
  have covered : ∀ nodeId, scan.successorsOf nodeId ≠ [] →
      nodeId ∈ Text.sortBy id (types.map Prod.fst) := by
    intro nodeId busy
    obtain ⟨next, edge⟩ := exists_mem_of_ne_nil _ busy
    exact Text.mem_sortBy.mpr (inside _ (targets nodeId next edge)).1
  obtain ⟨found, search⟩ := GraphSearch.findCyclic_returns closed
  constructor
  · intro empty
    rw [cyclicNodes, search, Option.getD_some] at empty
    exact GraphSearch.findCyclic_sound (empty ▸ search) covered
  · intro finite
    rw [cyclicNodes, GraphSearch.findCyclic_complete closed finite.acyclic, Option.getD_some]

variable {field : String}

theorem limitCheck_clean {count limit : Nat} :
    limitCheck count limit field = [] ↔ count ≤ limit := by
  unfold limitCheck
  split <;> simp <;> omega

/-! ## The document -/

def DocumentEdge.slot (edge : DocumentEdge) : String := Authoring.slot edge.source edge.port

/-- A graph about which the stages after the schema report nothing. -/
structure Clean (host : Host) (capabilities : List JourneyRuntimeCapability)
    (parts : DocumentParts) (trigger : DocumentNode) (nodes : List DocumentNode)
    (edges : List (String × DocumentEdge)) : Prop where
  settings : ∀ entry ∈ parts.settings, entry.1 ∈ settingsFields
  triggerClean : NodeClean host triggerFields (.obj parts.trigger) trigger
  isTrigger : ∃ type, trigger.type = .trigger type
  nodesClean : List.Forall₂ (StepClean host) parts.nodes nodes
  nodeIds : ((trigger :: nodes).map DocumentNode.nodeId).Nodup
  edgesClean : List.Forall₂ (EdgeClean host ((trigger :: nodes).map entryOf)) parts.edges edges
  edgeIds : (edges.map Prod.fst).Nodup
  slots : (edges.map fun edge => edge.2.slot).Nodup
  connected : ∀ node ∈ trigger :: nodes, ∀ port ∈ node.type.ports,
    slot node.nodeId port ∈ edges.map fun edge => edge.2.slot
  finite : GraphSearch.Terminates (successors (edges.map Prod.snd))
  placed : ∀ node ∈ nodes, ∀ kind, node.type = .step (.restricted kind) →
    trigger.type = .trigger .interactionOutcomeTrigger ∧
      ∃ edge ∈ edges, edge.2.source = trigger.nodeId ∧ edge.2.target = node.nodeId
  capable : (∃ node ∈ nodes, ∃ kind, node.type = .step (.restricted kind)) →
    capabilityAvailable capabilities restrictedNodeCapability = true
  stepLimit : parts.nodes.length ≤ runtimeStepsLimit
  edgeLimit : parts.edges.length ≤ controlEdgesLimit

theorem map_entryOf (nodes : List DocumentNode) :
    (nodes.map entryOf).map Prod.fst = nodes.map DocumentNode.nodeId := by
  rw [map_map]
  rfl

theorem NodeTypes.mem_of_get (found : types.get nodeId = some type) : (nodeId, type) ∈ types := by
  obtain ⟨⟨id, entry⟩, hit, rfl⟩ := map_eq_some_iff.mp found
  have same : id = nodeId := Table.lookup_key hit
  exact same ▸ Table.lookup_mem hit

theorem isTextOf_str {value expected : String} :
    isTextOf (some (.str value)) expected = true ↔ value = expected := by
  simp [isTextOf]

theorem checkPlacement_clean : checkPlacement types triggerId scan = [] ↔
      ∀ entry ∈ types, entry.2.isRestricted = true →
        triggerType types triggerId = some (.known (.trigger .interactionOutcomeTrigger)) ∧
          entry.1 ∈ scan.entryTargets := by
  rw [checkPlacement, map_filter_eq_nil]
  refine forall₂_congr fun entry _ => ?_
  cases entry.2.isRestricted with
  | false => simp
  | true => simp

variable {capabilities : List JourneyRuntimeCapability}

theorem checkCapability_clean : checkCapability types capabilities = [] ↔
      ((∃ entry ∈ types, entry.2.isRestricted = true) →
        capabilityAvailable capabilities restrictedNodeCapability = true) := by
  unfold checkCapability
  cases capabilityAvailable capabilities restrictedNodeCapability with
  | false => simp
  | true => simp

theorem isRestricted_entryOf {node : DocumentNode} :
    (entryOf node).2.isRestricted = true ↔ ∃ kind, node.type = .step (.restricted kind) := by
  obtain ⟨nodeId, type, config⟩ := node
  rcases type with trigger | step
  · simp [entryOf, isRestricted]
  · cases step <;> simp [entryOf, isRestricted]

variable {results : List β}

/-- What has been read was read from something. -/
theorem source_of_mem {R : α → β → Prop} (all : List.Forall₂ R items results) {result : β}
    (mem : result ∈ results) : ∃ item ∈ items, R item result := by
  induction all with
  | nil => cases mem
  | cons first rest ih =>
      rcases mem_cons.mp mem with rfl | later
      · exact ⟨_, mem_cons_self, first⟩
      · obtain ⟨item, inside, found⟩ := ih later
        exact ⟨item, mem_cons_of_mem _ inside, found⟩

theorem fieldCheck_clean {holds : Bool} {code : JourneyAuthoringErrorCode} :
    fieldCheck holds code field = [] ↔ holds = true := by
  cases holds <;> simp [fieldCheck]

variable {value : Option Json}

theorem isObject_iff : isObject value = true ↔ ∃ fields, value = some (.obj fields) := by
  unfold isObject
  split
  · simp
  · rename_i other
    simpa using other

theorem isArray_iff : isArray value = true ↔ ∃ items, value = some (.arr items) := by
  unfold isArray
  split
  · simp
  · rename_i other
    simpa using other

variable {fields : List (String × Json)}

theorem documentParts_of_schema (clean : checkSchema fields = []) :
    ∃ parts, documentParts? fields = some parts := by
  simp only [checkSchema, append_eq_nil_iff, fieldCheck_clean, isObject_iff, isArray_iff]
    at clean
  obtain ⟨⟨⟨⟨⟨-, trigger, triggerRead⟩, nodes, nodesRead⟩, edges, edgesRead⟩, settings,
    settingsRead⟩, -⟩ := clean
  exact ⟨⟨trigger, nodes, edges, settings⟩, by
    simp [documentParts?, triggerRead, nodesRead, edgesRead, settingsRead]⟩

def scanOf (triggerId : Option Json) (edges : List (String × DocumentEdge)) : EdgeScan :=
  edges.foldl (EdgeScan.extend triggerId) {}

section
variable {trigger : DocumentNode} {nodes : List DocumentNode} {edges : List (String × DocumentEdge)}

theorem scanOf_used : (scanOf triggerId edges).used = edges.map fun edge => edge.2.slot := by
  rw [scanOf, extend_all]
  rfl

theorem scanOf_edgeIds : (scanOf triggerId edges).edgeIds = edges.map Prod.fst := by
  rw [scanOf, extend_all]
  rfl

theorem scanOf_successorsOf :
    (scanOf triggerId edges).successorsOf = successors (edges.map Prod.snd) := by
  funext nodeId
  rw [scanOf, extend_all, EdgeScan.successorsOf, successors]
  simp [filter_map, Function.comp_def]

theorem scanOf_inside (all : List.Forall₂ (EdgeClean host types) raws edges) :
    ∀ edge ∈ (scanOf triggerId edges).successors,
      edge.1 ∈ types.map Prod.fst ∧ edge.2 ∈ types.map Prod.fst := by
  intro ends mem
  rw [scanOf, extend_all, nil_append] at mem
  obtain ⟨edge, listed, rfl⟩ := mem_map.mp mem
  obtain ⟨raw, -, clean⟩ := source_of_mem all listed
  obtain ⟨fromType, toType, fromFound, toFound, -⟩ := clean.ends
  exact ⟨mem_map_of_mem (mem_of_get fromFound), mem_map_of_mem (mem_of_get toFound)⟩

theorem mem_entryTargets :
    target ∈ (scanOf (some (.str nodeId)) edges).entryTargets ↔
      ∃ edge ∈ edges, edge.2.source = nodeId ∧ edge.2.target = target := by
  rw [scanOf, extend_all]
  simp only [nil_append, mem_map, mem_filter, isTextOf_str, and_assoc]
  refine exists_congr fun edge => and_congr_right fun _ => and_congr_left fun _ => eq_comm

theorem triggerType_clean :
    triggerType ((trigger :: nodes).map entryOf) (some (.str trigger.nodeId)) =
      some (.known trigger.type) := by
  simp [triggerType, NodeTypes.get, Table.lookup, entryOf]

theorem cycles_clean
    (all : List.Forall₂ (EdgeClean host ((trigger :: nodes).map entryOf)) raws edges) :
    checkCycles ((trigger :: nodes).map entryOf) (scanOf triggerId edges) = [] ↔
      GraphSearch.Terminates (successors (edges.map Prod.snd)) := by
  rw [checkCycles_clean, cyclicNodes_clean (scanOf_inside all), scanOf_successorsOf]

theorem ports_clean :
    checkPorts (scanOf triggerId edges).used ((trigger :: nodes).map entryOf) = some [] ↔
      ∀ node ∈ trigger :: nodes, ∀ port ∈ node.type.ports,
        slot node.nodeId port ∈ edges.map fun edge => edge.2.slot := by
  rw [checkPorts_clean, scanOf_used, forall_mem_map]
  refine forall₂_congr fun node _ => ?_
  simp [entryOf, outputs, JourneyNodeType.ports]

theorem placement_clean (isTrigger : ∃ type, trigger.type = .trigger type) :
    checkPlacement ((trigger :: nodes).map entryOf) (some (.str trigger.nodeId))
        (scanOf (some (.str trigger.nodeId)) edges) = [] ↔
      ∀ node ∈ nodes, ∀ kind, node.type = .step (.restricted kind) →
        trigger.type = .trigger .interactionOutcomeTrigger ∧
          ∃ edge ∈ edges, edge.2.source = trigger.nodeId ∧ edge.2.target = node.nodeId := by
  rw [checkPlacement_clean, forall_mem_map, triggerType_clean]
  simp only [isRestricted_entryOf, mem_entryTargets, forall_mem_cons, Option.some.injEq,
    known.injEq, forall_exists_index]
  obtain ⟨type, same⟩ := isTrigger
  constructor
  · exact fun both node mem kind restricted => both.2 node mem kind restricted
  · refine fun placed => ⟨fun kind restricted => ?_, placed⟩
    rw [same] at restricted
    cases restricted

theorem capability_clean (isTrigger : ∃ type, trigger.type = .trigger type) :
    checkCapability ((trigger :: nodes).map entryOf) capabilities = [] ↔
      ((∃ node ∈ nodes, ∃ kind, node.type = .step (.restricted kind)) →
        capabilityAvailable capabilities restrictedNodeCapability = true) := by
  rw [checkCapability_clean]
  refine imp_congr_left ?_
  obtain ⟨type, same⟩ := isTrigger
  constructor
  · rintro ⟨entry, mem, restricted⟩
    obtain ⟨node, listed, rfl⟩ := mem_map.mp mem
    obtain ⟨kind, isAction⟩ := isRestricted_entryOf.mp restricted
    rcases mem_cons.mp listed with rfl | step
    · rw [same] at isAction
      cases isAction
    · exact ⟨node, step, kind, isAction⟩
  · rintro ⟨node, mem, restricted⟩
    exact ⟨entryOf node, mem_map_of_mem (mem_cons_of_mem _ mem),
      isRestricted_entryOf.mpr restricted⟩

end

theorem NodeClean.idField {node : DocumentNode} (clean : NodeClean host allowed (.obj fields) node) :
    Json.field fields "nodeId" = some (.str node.nodeId) :=
  (readNode_inv clean.read).1

theorem entryOf_known {nodes : List DocumentNode} :
    ∀ entry ∈ nodes.map entryOf, ∃ type, entry.2 = .known type := by
  intro entry mem
  obtain ⟨node, -, rfl⟩ := mem_map.mp mem
  exact ⟨node.type, rfl⟩

theorem checkGraph_clean {parts : DocumentParts} : checkGraph host capabilities parts = some [] ↔
      ∃ trigger nodes edges, Clean host capabilities parts trigger nodes edges := by
  constructor
  · intro clean
    obtain ⟨⟨triggerFound, triggerTypes⟩, triggerRun, clean⟩ := bind_eq_some_iff.mp clean
    obtain ⟨⟨nodesFound, types⟩, nodesRun, clean⟩ := bind_eq_some_iff.mp clean
    obtain ⟨⟨edgesFound, scan⟩, edgesRun, clean⟩ := bind_eq_some_iff.mp clean
    obtain ⟨portsFound, portsRun, clean⟩ := bind_eq_some_iff.mp clean
    simp only [Option.pure_def, Option.some.injEq, append_eq_nil_iff] at clean
    obtain ⟨⟨⟨⟨⟨⟨⟨⟨⟨settings, rfl⟩, rfl⟩, rfl⟩, rfl⟩, cycles⟩, placement⟩, capability⟩, steps⟩,
      controlEdges⟩ := clean
    have plain : ∀ entry ∈ types, entry.2 ≠ .inherited := by
      intro entry mem inherits
      rcases checkPorts_clean.mp portsRun entry mem with unsupported | ⟨outputs, read, -⟩
      · rw [inherits] at unsupported
        cases unsupported
      · rw [inherits] at read
        cases read
    obtain ⟨trigger, type, triggerClean, isTrigger, rfl⟩ := checkTrigger_clean.mp triggerRun
    have single : (([(trigger.nodeId, known trigger.type)] : NodeTypes).map
        Prod.fst).Nodup := nodup_singleton _
    obtain ⟨nodes, nodesClean, sameTypes, distinct⟩ := (checkNodes_clean plain single).mp nodesRun
    have sameTypes : types = (trigger :: nodes).map entryOf := sameTypes
    subst sameTypes
    rw [triggerClean.idField] at edgesRun placement
    obtain ⟨edges, edgesClean, scanned, edgeIds, slots⟩ :=
      (checkEdges_clean entryOf_known nodup_nil nodup_nil).mp edgesRun
    have scanned : scan = scanOf (some (.str trigger.nodeId)) edges := scanned
    subst scanned
    rw [scanOf_edgeIds] at edgeIds
    rw [scanOf_used] at slots
    rw [map_entryOf] at distinct
    have isTrigger : ∃ type, trigger.type = .trigger type := ⟨type, isTrigger⟩
    exact ⟨trigger, nodes, edges, closedKeys_clean.mp settings, triggerClean, isTrigger, nodesClean,
      distinct, edgesClean, edgeIds, slots, ports_clean.mp portsRun,
      (cycles_clean edgesClean).mp cycles, (placement_clean isTrigger).mp placement,
      (capability_clean isTrigger).mp capability, limitCheck_clean.mp steps,
      limitCheck_clean.mp controlEdges⟩
  · rintro ⟨trigger, nodes, edges, clean⟩
    obtain ⟨type, isTrigger⟩ := clean.isTrigger
    have triggerRun : checkTrigger host parts.trigger =
        some ([], [(trigger.nodeId, .known trigger.type)]) :=
      checkTrigger_clean.mpr ⟨trigger, type, clean.triggerClean, isTrigger, rfl⟩
    have plain : ∀ entry ∈ (trigger :: nodes).map entryOf, entry.2 ≠ .inherited := by
      intro entry mem inherits
      obtain ⟨known, same⟩ := entryOf_known entry mem
      rw [same] at inherits
      cases inherits
    have single : (([(trigger.nodeId, known trigger.type)] : NodeTypes).map
        Prod.fst).Nodup := nodup_singleton _
    have distinct : (((trigger :: nodes).map entryOf).map Prod.fst).Nodup := by
      rw [map_entryOf]
      exact clean.nodeIds
    have nodesRun : checkNodes host 0 [(trigger.nodeId, .known trigger.type)] parts.nodes =
        some ([], (trigger :: nodes).map entryOf) :=
      (checkNodes_clean plain single).mpr ⟨nodes, clean.nodesClean, rfl, distinct⟩
    have edgesRun : checkEdges host ((trigger :: nodes).map entryOf) (some (.str trigger.nodeId)) 0
        {} parts.edges = some ([], scanOf (some (.str trigger.nodeId)) edges) := by
      refine (checkEdges_clean entryOf_known nodup_nil nodup_nil).mpr
        ⟨edges, clean.edgesClean, rfl, ?_, ?_⟩
      · rw [scanOf_edgeIds]
        exact clean.edgeIds
      · rw [scanOf_used]
        exact clean.slots
    have portsRun : checkPorts (scanOf (some (.str trigger.nodeId)) edges).used
        ((trigger :: nodes).map entryOf) = some [] := ports_clean.mpr clean.connected
    rw [checkGraph, triggerRun]
    simp only [Option.bind_eq_bind, Option.bind_some, nodesRun, clean.triggerClean.idField,
      edgesRun, portsRun, Option.pure_def, Option.some.injEq, append_eq_nil_iff, and_true]
    exact ⟨⟨⟨⟨⟨closedKeys_clean.mpr clean.settings, (cycles_clean clean.edgesClean).mpr clean.finite⟩,
      (placement_clean clean.isTrigger).mpr clean.placed⟩,
      (capability_clean clean.isTrigger).mpr clean.capable⟩,
      limitCheck_clean.mpr clean.stepLimit⟩, limitCheck_clean.mpr clean.edgeLimit⟩

/-- The documents which the validator lets through. -/
theorem validate_clean {document : Json} :
    validateAuthoringDocument host capabilities document = some [] ↔
      ∃ fields parts trigger nodes edges, document = .obj fields ∧ checkSchema fields = [] ∧
        documentParts? fields = some parts ∧
        Clean host capabilities parts trigger nodes edges := by
  constructor
  · intro clean
    unfold validateAuthoringDocument at clean
    split at clean
    · rename_i fields
      split at clean
      · rename_i parts schema found
        obtain ⟨reported, run, sorted⟩ := map_eq_some_iff.mp clean
        rw [sortJourneyDiagnostics_eq_nil] at sorted
        obtain ⟨trigger, nodes, edges, graph⟩ := checkGraph_clean.mp (sorted ▸ run)
        exact ⟨fields, parts, trigger, nodes, edges, rfl, schema, found, graph⟩
      · rename_i other
        rw [Option.some.injEq, sortJourneyDiagnostics_eq_nil] at clean
        obtain ⟨parts, found⟩ := documentParts_of_schema clean
        exact absurd found (other parts clean)
    · cases clean
  · rintro ⟨fields, parts, trigger, nodes, edges, rfl, schema, found, graph⟩
    have run : checkGraph host capabilities parts = some [] :=
      checkGraph_clean.mpr ⟨trigger, nodes, edges, graph⟩
    unfold validateAuthoringDocument
    simp only [schema, found, run, Option.map_some]
    rfl

/-! ## The runtime content of a clean document -/

theorem mapM_of_forall₂ {f : α → Option β}
    (all : List.Forall₂ (fun item result => f item = some result) items results) :
    items.mapM f = some results := by
  induction all with
  | nil => rfl
  | cons first rest ih => simp [mapM_cons, first, ih]

theorem opaque_no_separator {id : String} (identified : isOpaqueId id = true) {character : Char}
    (special : character.isAlphanum = false ∧ character ≠ '_' ∧ character ≠ '-') :
    character ∉ id.toList := by
  unfold isOpaqueId at identified
  intro mem
  split at identified
  · rename_i empty
    rw [empty] at mem
    cases mem
  · rename_i first rest chars
    rw [chars] at mem
    simp only [Bool.and_eq_true, all_eq_true, Bool.or_eq_true, beq_iff_eq] at identified
    obtain ⟨⟨head, -⟩, tail⟩ := identified
    rcases mem_cons.mp mem with rfl | later
    · rw [special.1] at head
      cases head
    · rcases tail character later with (alphanumeric | underscore) | dash
      · rw [special.1] at alphanumeric
        cases alphanumeric
      · exact special.2.1 underscore
      · exact special.2.2 dash

theorem opaque_ne_empty {id : String} (identified : isOpaqueId id = true) : id ≠ "" := by
  rintro rfl
  exact absurd identified (by decide)

theorem slot_injective {left right leftPort rightPort : String} (first : isOpaqueId left = true)
    (second : isOpaqueId right = true) (same : slot left leftPort = slot right rightPort) :
    left = right ∧ leftPort = rightPort := by
  have bar : "|" = String.singleton '|' := by decide
  rw [slot, slot, bar] at same
  exact Text.join_injective (opaque_no_separator first (by decide))
    (opaque_no_separator second (by decide)) same

theorem textOf_of_textOrEmpty {text : String}
    (read : host.textOrEmpty value = some text) (visible : text ≠ "") :
    ∃ found, value = some found ∧ host.text found = some text := by
  have empty : host.text (.str "") = some "" := host.text_str ""
  unfold Host.textOrEmpty Json.orElse at read
  split at read
  · rw [empty] at read
    exact absurd (Option.some.inj read).symm visible
  · rw [empty] at read
    exact absurd (Option.some.inj read).symm visible
  · exact ⟨_, rfl, read⟩

/-- The port of an edge has a name. -/
theorem port_ne_empty {type : JourneyNodeType} {port : String}
    (declared : hasPort type.outputs port = true) : port ≠ "" := by
  rintro rfl
  have every : ∀ type ∈ journeyNodeTypes, hasPort type.outputs "" = false := by decide +kernel
  rw [every type (mem_journeyNodeTypes type)] at declared
  cases declared

section
variable {parts : DocumentParts} {trigger : DocumentNode} {nodes : List DocumentNode}
  {edges : List (String × DocumentEdge)}

section
variable (clean : Clean host capabilities parts trigger nodes edges)
include clean

theorem Clean.identified : ∀ node ∈ trigger :: nodes, isOpaqueId node.nodeId = true := by
  intro node mem
  rcases mem_cons.mp mem with rfl | step
  · exact clean.triggerClean.identified
  · obtain ⟨raw, -, stepClean⟩ := source_of_mem clean.nodesClean step
    exact stepClean.identified

theorem Clean.declared : ∀ node ∈ trigger :: nodes, ConfigClean host node.type node.config := by
  intro node mem
  rcases mem_cons.mp mem with rfl | step
  · exact clean.triggerClean.config
  · obtain ⟨raw, -, stepClean⟩ := source_of_mem clean.nodesClean step
    exact stepClean.config

theorem Clean.isStep : ∀ node ∈ nodes, ∃ type, node.type = .step type := by
  intro node mem
  obtain ⟨raw, -, stepClean⟩ := source_of_mem clean.nodesClean mem
  exact stepClean.isStep

/-- An edge leaves a node through a port that the registry answers to, and enters a step. -/
theorem Clean.ends {edge : String × DocumentEdge} (mem : edge ∈ edges) :
    (∃ node ∈ trigger :: nodes, node.nodeId = edge.2.source ∧
      hasPort node.type.outputs edge.2.port = true) ∧
    ∃ node ∈ nodes, node.nodeId = edge.2.target := by
  obtain ⟨raw, -, edgeClean⟩ := source_of_mem clean.edgesClean mem
  obtain ⟨fromType, toType, fromFound, toFound, declared⟩ := edgeClean.ends
  obtain ⟨node, listed, same⟩ := mem_map.mp (mem_of_get fromFound)
  obtain ⟨other, inside, equal⟩ := mem_map.mp (mem_of_get toFound)
  obtain ⟨idSame, typeSame⟩ := Prod.mk.inj same
  obtain ⟨idEqual, typeEqual⟩ := Prod.mk.inj equal
  cases typeSame
  refine ⟨⟨node, listed, idSame, declared⟩, ?_⟩
  rcases mem_cons.mp inside with rfl | step
  · obtain ⟨type, isTrigger⟩ := clean.isTrigger
    rw [isTrigger] at typeEqual
    cases typeEqual
  · exact ⟨other, step, idEqual⟩

end

/-- The compiler finds the ends of an edge where the validator found them. -/
theorem edgeTarget_clean {edge : String × DocumentEdge}
    (identified : isOpaqueId edge.2.source = true) (entered : isOpaqueId edge.2.target = true)
    (clean : EdgeClean host ((trigger :: nodes).map entryOf) raw edge) :
    ∃ value, edgeTarget host raw = some (edge.2.slot, some value) ∧
      host.text value = some edge.2.target := by
  obtain ⟨fields, source, target, rfl, -, sourceRead, targetRead, read⟩ := clean.shape
  obtain ⟨sourceId, sourceText, read⟩ := bind_eq_some_iff.mp read
  obtain ⟨portId, portText, read⟩ := bind_eq_some_iff.mp read
  obtain ⟨targetId, targetText, read⟩ := bind_eq_some_iff.mp read
  obtain ⟨fromType, toType, -, -, declared⟩ := clean.ends
  have same : DocumentEdge.mk sourceId portId targetId = edge.2 := Option.some.inj read
  rw [← same] at identified entered declared ⊢
  obtain ⟨sourceValue, sourceField, sourceIs⟩ :=
    textOf_of_textOrEmpty sourceText (opaque_ne_empty identified)
  obtain ⟨portValue, portField, portIs⟩ :=
    textOf_of_textOrEmpty portText (port_ne_empty declared)
  obtain ⟨value, targetField, targetIs⟩ :=
    textOf_of_textOrEmpty targetText (opaque_ne_empty entered)
  refine ⟨value, ?_, targetIs⟩
  have sourceGet : Json.get? (.obj source) "nodeId" = some sourceValue := sourceField
  have portGet : Json.get? (.obj source) "portId" = some portValue := portField
  have targetGet : Json.get? (.obj target) "nodeId" = some value := targetField
  unfold edgeTarget
  rw [sourceRead, targetRead]
  simp [sourceGet, portGet, targetGet, Host.textOf, sourceIs, portIs, DocumentEdge.slot]

theorem targetsOf_clean (clean : Clean host capabilities parts trigger nodes edges) :
    ∃ targets, targetsOf host parts.edges = some targets ∧
      targets.map Prod.fst = edges.map (fun edge => edge.2.slot) ∧
      ∀ edge ∈ edges, ∃ value, targetAt targets edge.2.slot = some value ∧
        host.text value = some edge.2.target := by
  have named : ∀ edge ∈ edges, isOpaqueId edge.2.source = true ∧ isOpaqueId edge.2.target = true := by
    intro edge mem
    obtain ⟨⟨node, listed, leaves, -⟩, other, inside, enters⟩ := clean.ends mem
    exact ⟨leaves ▸ clean.identified node listed,
      enters ▸ clean.identified other (mem_cons_of_mem _ inside)⟩
  have read : ∃ targets, parts.edges.mapM (edgeTarget host) = some targets ∧
      List.Forall₂ (fun (edge : String × DocumentEdge) entry => entry.1 = edge.2.slot ∧
        ∃ value, entry.2 = some value ∧ host.text value = some edge.2.target) edges targets := by
    have all := clean.edgesClean
    generalize parts.edges = raws at all
    clear clean
    induction all with
    | nil => exact ⟨[], rfl, .nil⟩
    | @cons raw edge raws edges first rest ih =>
        obtain ⟨targets, others, related⟩ :=
          ih fun edge mem => named edge (mem_cons_of_mem _ mem)
        obtain ⟨identified, entered⟩ := named edge mem_cons_self
        obtain ⟨value, one, text⟩ := edgeTarget_clean identified entered first
        exact ⟨(edge.2.slot, some value) :: targets, by simp [mapM_cons, one, others],
          .cons ⟨rfl, value, rfl, text⟩ related⟩
  obtain ⟨targets, run, related⟩ := read
  have keys : targets.map Prod.fst = edges.map fun edge => edge.2.slot := by
    clear run named clean
    induction related with
    | nil => rfl
    | cons first rest ih => rw [map_cons, map_cons, ih, first.1]
  have distinct : (targets.map Prod.fst).Nodup := keys ▸ clean.slots
  refine ⟨targets, by rw [targetsOf, run, Option.map_some, Table.ofEntries_of_nodup distinct],
    keys, ?_⟩
  intro edge mem
  obtain ⟨entry, inside, slotSame, value, held, text⟩ := source_of_mem related.flip mem
  refine ⟨value, ?_, text⟩
  rw [targetAt, Table.lookup_of_member distinct inside slotSame, Option.bind_some, held]

theorem buildRuntimeContent_clean (clean : Clean host capabilities parts trigger nodes edges)
    (ownerTeamId : String) :
    ∃ targets, buildRuntimeContent host parts ownerTeamId =
        some (assembleContent targets parts.settings trigger nodes ownerTeamId) ∧
      targets.map Prod.fst = edges.map (fun edge => edge.2.slot) ∧
      ∀ edge ∈ edges, ∃ value, targetAt targets edge.2.slot = some value ∧
        host.text value = some edge.2.target := by
  obtain ⟨targets, run, keys, held⟩ := targetsOf_clean clean
  have read : parts.nodes.mapM readNode = some nodes :=
    mapM_of_forall₂ (clean.nodesClean.imp fun _ _ stepClean => stepClean.read)
  refine ⟨targets, ?_, keys, held⟩
  rw [buildRuntimeContent, run]
  simp only [Option.bind_eq_bind, Option.bind_some, clean.triggerClean.read, read]
  rfl

end

end DContact.Journey.Authoring

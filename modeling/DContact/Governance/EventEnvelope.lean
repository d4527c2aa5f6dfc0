import DContact.Governance.PolicyScope

/-!
# Canonical events

The guard that every event passes on its way out of the outbox and into an inbox, and
the decision of a consumer about the version of an event that has passed it. Both are
pure: the rows they are applied to come with the relay and with the inbox.
-/

namespace DContact.Governance

open Lib

inductive EnvelopeRejection where
  | malformedPayload
  | unsupportedEventType
  | unsupportedContractVersion
  | unsupportedPolicySchemaVersion
  | unsupportedRuleRegistryVersion
  | unsupportedEvaluatorVersion
  | restrictedFieldPresent
  deriving DecidableEq

def EnvelopeRejection.text : EnvelopeRejection → String
  | .malformedPayload => "MALFORMED_PAYLOAD"
  | .unsupportedEventType => "UNSUPPORTED_EVENT_TYPE"
  | .unsupportedContractVersion => "UNSUPPORTED_CONTRACT_VERSION"
  | .unsupportedPolicySchemaVersion => "UNSUPPORTED_POLICY_SCHEMA_VERSION"
  | .unsupportedRuleRegistryVersion => "UNSUPPORTED_RULE_REGISTRY_VERSION"
  | .unsupportedEvaluatorVersion => "UNSUPPORTED_EVALUATOR_VERSION"
  | .restrictedFieldPresent => "RESTRICTED_FIELD_PRESENT"

inductive EnvelopeParse where
  | accepted
  | rejected (reason : EnvelopeRejection) (detail : String)

/-- `CG4_CONTRACT_VERSION`. -/
def contractVersion : Nat := 1

def policyChanged : String := "policy.changed"

/-- `CG4_EVENT_TYPES`. -/
def eventTypes : List String :=
  ["exception.changed", policyChanged, "governance.kill-switch.changed"]

/-- `RESTRICTED_KEYS`. -/
def restrictedKeys : List String :=
  ["actorref", "actorclass", "approverref", "makeractorref", "checkeractorref", "ticketref",
    "evidenceref", "clearapprovalref", "identityvalue", "email", "phone", "phonenumber",
    "displayname", "contactname", "fullname"]

/-- `toLowerCase`, as far as it can give one of the restricted keys: the Kelvin sign is
the only character outside ASCII whose lower case is an ASCII letter. -/
def lowerCase (key : String) : String :=
  String.ofList (key.toList.map fun character =>
    if character.toNat = 0x212A then 'k' else character.toLower)

mutual

def findRestrictedKey (path : String) : Json → Option String
  | .arr items => restrictedInItems path 0 items
  | .obj fields => restrictedInFields path fields
  | _ => none

def restrictedInItems (path : String) (index : Nat) : List Json → Option String
  | [] => none
  | item :: rest =>
      match findRestrictedKey (path ++ "[" ++ toString index ++ "]") item with
      | some found => some found
      | none => restrictedInItems path (index + 1) rest

def restrictedInFields (path : String) : List (String × Json) → Option String
  | [] => none
  | (key, entry) :: rest =>
      if lowerCase key ∈ restrictedKeys then some (path ++ "." ++ key)
      else
        match findRestrictedKey (path ++ "." ++ key) entry with
        | some found => some found
        | none => restrictedInFields path rest

end

def textFields : List String :=
  ["subjectId", "mutationId", "transitionKind", "state", "effectiveAt", "scopeDigest", "stateDigest",
    "restrictiveness"]

def isText : Option Json → Bool
  | some (.str _) => true
  | _ => false

/-- `typeof value === 'object'` for a value that is not null. -/
def isObject : Option Json → Bool
  | some (.arr _) => true
  | some (.obj _) => true
  | _ => false

def restrictivenessKnown : Option Json → Bool
  | some (.str text) => text ∈ ["TIGHTENING", "NEUTRAL", "RELAXATION"]
  | _ => false

def isNumber (number : Nat) : Option Json → Bool
  | some (.num value) => value == number
  | _ => false

def isTextOf (text : String) : Option Json → Bool
  | some (.str value) => value == text
  | _ => false

/-- The checks on the fields of a payload; `hostText` is the host's `String(value)`. -/
def checkFields (hostText : Option Json → String) (fields : List (String × Json)) :
    Except (EnvelopeRejection × String) Unit := do
  let value := Json.field fields
  match textFields.find? fun name => !isText (value name) with
  | some name => .error (.malformedPayload, "payload." ++ name ++ " ต้องเป็น string")
  | none => do
      ensure (((value "subjectVersion").bind Json.integer?).isSome = true)
        (.malformedPayload, "payload.subjectVersion ต้องเป็น integer")
      ensure (isObject (value "affectedScope") = true)
        (.malformedPayload, "payload.affectedScope ต้องเป็น object")
      ensure (restrictivenessKnown (value "restrictiveness") = true)
        (.malformedPayload, "payload.restrictiveness ไม่ใช่ค่าที่รู้จัก")
      ensure (isNumber contractVersion (value "contractVersion") = true)
        (.unsupportedContractVersion,
          "contractVersion " ++ hostText (value "contractVersion") ++ " ไม่รองรับ")
      ensure (isNumber policySchemaVersion (value "policySchemaVersion") = true)
        (.unsupportedPolicySchemaVersion,
          "policySchemaVersion " ++ hostText (value "policySchemaVersion") ++ " ไม่รองรับ")
      ensure (isTextOf ruleRegistryVersion (value "ruleRegistryVersion") = true)
        (.unsupportedRuleRegistryVersion,
          "ruleRegistryVersion " ++ hostText (value "ruleRegistryVersion") ++ " ไม่รองรับ")
      ensure (isTextOf evaluatorVersion (value "evaluatorVersion") = true)
        (.unsupportedEvaluatorVersion,
          "evaluatorVersion " ++ hostText (value "evaluatorVersion") ++ " ไม่รองรับ")
      match restrictedInFields "payload" fields with
      | some path =>
          .error (.restrictedFieldPresent, path ++ " เป็น field ที่ห้ามอยู่ใน payload")
      | none => .ok ()

theorem restrictedInFields_none {path : String} {fields : List (String × Json)}
    (keys : ∀ entry ∈ fields, lowerCase entry.1 ∉ restrictedKeys)
    (values : ∀ entry ∈ fields, ∀ path, findRestrictedKey path entry.2 = none) :
    restrictedInFields path fields = none := by
  induction fields with
  | nil => rw [restrictedInFields]
  | cons entry rest ih =>
      obtain ⟨key, value⟩ := entry
      have allowed : lowerCase key ∉ restrictedKeys := keys _ List.mem_cons_self
      have inner : ∀ path, findRestrictedKey path value = none := values _ List.mem_cons_self
      rw [restrictedInFields, if_neg allowed, inner]
      exact ih (fun entry mem => keys entry (List.mem_cons_of_mem _ mem))
        fun entry mem => values entry (List.mem_cons_of_mem _ mem)

def parseCg4CanonicalEvent (hostText : Option Json → String) (eventType : String) (payload : Json) :
    EnvelopeParse :=
  if eventType ∉ eventTypes then
    .rejected .unsupportedEventType ("event type " ++ eventType ++ " ไม่ใช่ canonical CG4")
  else
    match payload with
    | .obj fields =>
        match checkFields hostText fields with
        | .error (reason, detail) => .rejected reason detail
        | .ok _ => .accepted
    | _ => .rejected .malformedPayload "payload ต้องเป็น object"

/-- A rejection that the producer must never publish. -/
def isCg4ProducerSideRejection (reason : EnvelopeRejection) : Bool :=
  decide (reason = .malformedPayload) || decide (reason = .restrictedFieldPresent)

inductive AggregateType where
  | contact
  | policy
  | alert
  | export
  deriving DecidableEq

structure OutboxEvent where
  id : String
  mutationId : String
  aggregateType : AggregateType
  aggregateId : String
  aggregateVersion : Nat
  eventType : String
  orderingKey : String
  payload : Json
  payloadHash : String

structure InboxCursor where
  aggregateVersion : Nat
  payloadHash : String

inductive InboxDecision where
  | apply
  | duplicate
  | quarantine (detail : String)
  | gap (expectedVersion receivedVersion : Nat)
  | outOfOrder (appliedVersion receivedVersion : Nat)
  | unsupported (reason : EnvelopeRejection) (detail : String)
  deriving DecidableEq

/-- The decision of a consumer that has applied an aggregate up to its cursor. -/
def classifyCg4InboundEvent (cursor : Option InboxCursor) (incoming : InboxCursor)
    (parse : EnvelopeParse) : InboxDecision :=
  match parse with
  | .rejected reason detail => .unsupported reason detail
  | .accepted =>
      match cursor with
      | none =>
          if incoming.aggregateVersion = 1 then .apply else .gap 1 incoming.aggregateVersion
      | some cursor =>
          if incoming.aggregateVersion = cursor.aggregateVersion then
            if incoming.payloadHash = cursor.payloadHash then .duplicate
            else .quarantine
              ("version " ++ toString incoming.aggregateVersion ++ " มีสอง payload hash ที่ต่างกัน")
          else if incoming.aggregateVersion = cursor.aggregateVersion + 1 then .apply
          else if cursor.aggregateVersion < incoming.aggregateVersion then
            .gap (cursor.aggregateVersion + 1) incoming.aggregateVersion
          else .outOfOrder cursor.aggregateVersion incoming.aggregateVersion

def cg4InboxDecisionPausesScope : InboxDecision → Bool
  | .apply | .duplicate => false
  | _ => true

inductive ScopePauseReason where
  | eventGap
  | eventOutOfOrder
  | hashConflict
  | unsupportedContract

def cg4PauseReasonFor : InboxDecision → Option ScopePauseReason
  | .gap .. => some .eventGap
  | .outOfOrder .. => some .eventOutOfOrder
  | .quarantine _ => some .hashConflict
  | .unsupported .. => some .unsupportedContract
  | .apply | .duplicate => none

def appliedVersion (cursor : Option InboxCursor) : Nat := (cursor.map InboxCursor.aggregateVersion).getD 0

variable {cursor : Option InboxCursor} {incoming : InboxCursor} {parse : EnvelopeParse}

theorem version_of_apply (applies : classifyCg4InboundEvent cursor incoming parse = .apply) :
    incoming.aggregateVersion = appliedVersion cursor + 1 := by
  unfold classifyCg4InboundEvent at applies
  split at applies
  next => cases applies
  split at applies
  next =>
    split at applies
    next first => exact first
    next => cases applies
  next =>
    split at applies
    next => split at applies <;> cases applies
    split at applies
    next contiguous => exact contiguous
    next => split at applies <;> cases applies

theorem version_of_duplicate
    (duplicates : classifyCg4InboundEvent cursor incoming parse = .duplicate) :
    incoming.aggregateVersion = appliedVersion cursor := by
  unfold classifyCg4InboundEvent at duplicates
  split at duplicates
  next => cases duplicates
  split at duplicates
  next => split at duplicates <;> cases duplicates
  split at duplicates
  next same => exact same
  split at duplicates
  next => cases duplicates
  next => split at duplicates <;> cases duplicates

theorem apply_of_version (next : incoming.aggregateVersion = appliedVersion cursor + 1) :
    classifyCg4InboundEvent cursor incoming .accepted = .apply := by
  cases cursor with
  | none => simpa [classifyCg4InboundEvent, appliedVersion] using next
  | some cursor =>
      have next : incoming.aggregateVersion = cursor.aggregateVersion + 1 := next
      simp [classifyCg4InboundEvent, next]

theorem pauseReason_isSome (decision : InboxDecision) :
    (cg4PauseReasonFor decision).isSome = cg4InboxDecisionPausesScope decision := by
  cases decision <;> rfl

end DContact.Governance

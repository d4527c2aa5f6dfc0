import DContact.Governance.LocalTime
import DContact.Lib.JsonObject
import DContact.Lib.Transition

/-!
# The contract of membership changes

The payload that says what happened to a membership stream, and the envelope that carries it to
the other services. Both are judged field by field as they were parsed. The canonical hash is
taken of the payload with its names in order, so it does not see in which order they are stored.
-/

namespace DContact.Customer360

open Lib

/-- What the contract takes from its surroundings. -/
structure ContractHost where
  tenantId : String
  /-- `String(value)`, with `undefined` for an absent field. -/
  text : Option Json → String
  /-- `JSON.stringify` of a number. -/
  numberText : Rat → String
  /-- Whether `Date.parse` reads the text. -/
  parsesAsDate : String → Bool
  /-- The lowercase hexadecimal SHA-256 of a text. -/
  sha256 : String → String

inductive J3ErrorCode where
  | unsupportedSchemaVersion
  | unsupportedContractVersion
  | orderingKeyMismatch
  | payloadValidationFailed
  | bindingMismatch

structure J3ContractError where
  code : J3ErrorCode
  message : String

def J3ContractError.failed (field reason : String) : J3ContractError where
  code := .payloadValidationFailed
  message := field ++ ": " ++ reason

/-- A digit of ASCII, as `\d` and `0-9` read it. -/
def isAsciiDigit (character : Char) : Bool := '0' ≤ character && character ≤ '9'

def isAsciiLetter (character : Char) : Bool :=
  ('a' ≤ character && character ≤ 'z') || ('A' ≤ character && character ≤ 'Z')

def isReferenceHead (character : Char) : Bool := isAsciiLetter character || isAsciiDigit character

def isReferenceTail (character : Char) : Bool :=
  isReferenceHead character || character ∈ [':', '.', '_', '-']

def referenceForm : List Char → Bool
  | [] => false
  | head :: tail => isReferenceHead head && tail.all isReferenceTail && decide (tail.length ≤ 159)

/-- What separates the digits of a phone number. -/
def isPhonePunctuation (character : Char) : Bool :=
  character ∈ ['(', ')', '.', '-'] || Text.isSpace character

/-- A text which is a phone number once its punctuation is gone. -/
def phoneLike (characters : List Char) : Bool :=
  let digits := characters.filter fun character => !isPhonePunctuation character
  decide (7 ≤ digits.length) && digits.all isAsciiDigit

def isOpaqueReference (text : String) : Bool :=
  referenceForm text.toList && !phoneLike text.toList

def opaqueReference (value : Option Json) (field : String) : Except J3ContractError String :=
  match value with
  | some (.str text) =>
      if isOpaqueReference text = true then .ok text
      else .error (.failed field "ต้องเป็น opaque internal reference ที่ไม่ว่างและไม่ใช่ PII text")
  | _ => .error (.failed field "ต้องเป็น opaque internal reference ที่ไม่ว่างและไม่ใช่ PII text")

def positiveVersion (value : Option Json) (field : String) : Except J3ContractError Int :=
  match value.bind Json.integer? with
  | some version =>
      if 1 ≤ version then .ok version else .error (.failed field "ต้องเป็นจำนวนเต็มตั้งแต่ 1")
  | none => .error (.failed field "ต้องเป็นจำนวนเต็มตั้งแต่ 1")

def timestamp (host : ContractHost) (value : Option Json) (field : String) :
    Except J3ContractError String :=
  match value with
  | some (.str text) =>
      if host.parsesAsDate text = true then .ok text
      else .error (.failed field "ต้องเป็น ISO-8601 timestamp")
  | _ => .error (.failed field "ต้องเป็น ISO-8601 timestamp")

def isLowercaseSha256 (text : String) : Bool :=
  decide (text.toList.length = 64) &&
    text.toList.all fun character => ('a' ≤ character && character ≤ 'f') || isAsciiDigit character

def hashValue (value : Option Json) (field : String) : Except J3ContractError String :=
  match value with
  | some (.str text) =>
      if isLowercaseSha256 text = true then .ok text
      else .error (.failed field "ต้องเป็น lowercase SHA-256")
  | _ => .error (.failed field "ต้องเป็น lowercase SHA-256")

def objectValue (value : Option Json) (field : String) :
    Except J3ContractError (List (String × Json)) :=
  match value with
  | some (.obj fields) => .ok fields
  | _ => .error (.failed field "ต้องเป็น object")

def exactKeys (fields : List (String × Json)) (field : String) (required : List String)
    (optional : List String) : Except J3ContractError PUnit := do
  match fields.find? fun entry => decide (entry.1 ∉ required ++ optional) with
  | some entry => throw (.failed (field ++ "." ++ entry.1) "ไม่อยู่ใน closed contract")
  | none => pure ⟨⟩
  match required.find? fun key => decide (key ∉ fields.map Prod.fst) with
  | some key => throw (.failed (field ++ "." ++ key) "จำเป็นต้องระบุ")
  | none => pure ⟨⟩

def unlessAbsent {α : Type} (value : Option Json)
    (check : Option Json → Except J3ContractError α) : Except J3ContractError PUnit :=
  match value with
  | none => .ok ⟨⟩
  | some present => (check (some present)).map fun _ => ⟨⟩

def validateOptionalEntryId (value : Option Json) : Except J3ContractError PUnit :=
  unlessAbsent value fun present => opaqueReference present "payload.entryId"

def validateOptionalSupersedesRevision (value : Option Json) (currentRevision : Int) :
    Except J3ContractError PUnit :=
  unlessAbsent value fun present => do
    let revision ← positiveVersion present "payload.supersedesRevision"
    ensure (revision < currentRevision)
      (J3ContractError.failed "payload.supersedesRevision" "ต้องน้อยกว่า membershipRevision ปัจจุบัน")

/-- A payload that was found valid: the object itself, with what its reader looks up. -/
structure SegmentMembershipChangePayload where
  fields : List (String × Json)
  contactId : String
  segmentId : String
  membershipRevision : Int

def commonRequired : List String :=
  ["contractVersion", "changeKind", "contactId", "segmentId", "segmentDefinitionVersion",
    "membershipRevision", "snapshotVersion", "evaluatedAt", "stateDigest"]

def commonOptional : List String := ["evidenceRef"]

def validateKind (fields : List (String × Json)) : Except J3ContractError PUnit :=
  match Json.field fields "changeKind" with
  | some (.str "ENTERED") => do
      exactKeys fields "payload" (commonRequired ++ ["entryId"]) commonOptional
      let _ ← opaqueReference (Json.field fields "entryId") "payload.entryId"
  | some (.str "LEFT") => do
      exactKeys fields "payload" (commonRequired ++ ["entryId"])
        (commonOptional ++ ["supersedesRevision"])
      let _ ← opaqueReference (Json.field fields "entryId") "payload.entryId"
  | some (.str "CORRECTED") => do
      exactKeys fields "payload" (commonRequired ++ ["supersedesRevision"])
        (commonOptional ++ ["entryId"])
      validateOptionalEntryId (Json.field fields "entryId")
  | some (.str "REFILTER_REQUIRED") | some (.str "IDENTITY_INVALIDATED") => do
      exactKeys fields "payload" commonRequired (commonOptional ++ ["entryId", "supersedesRevision"])
      validateOptionalEntryId (Json.field fields "entryId")
  | _ => .error (.failed "payload.changeKind" "ไม่รองรับ")

def validateSegmentMembershipChangePayload (host : ContractHost) (value : Option Json) :
    Except J3ContractError SegmentMembershipChangePayload := do
  let fields ← objectValue value "payload"
  ensure ((Json.field fields "contractVersion").bind Json.integer? = some 1)
    { code := .unsupportedContractVersion
      message := "ไม่รองรับ J3 contractVersion: " ++ host.text (Json.field fields "contractVersion") }
  validateKind fields
  let contactId ← opaqueReference (Json.field fields "contactId") "payload.contactId"
  let segmentId ← opaqueReference (Json.field fields "segmentId") "payload.segmentId"
  let _ ← positiveVersion (Json.field fields "segmentDefinitionVersion")
    "payload.segmentDefinitionVersion"
  let membershipRevision ← positiveVersion (Json.field fields "membershipRevision")
    "payload.membershipRevision"
  let _ ← positiveVersion (Json.field fields "snapshotVersion") "payload.snapshotVersion"
  let _ ← timestamp host (Json.field fields "evaluatedAt") "payload.evaluatedAt"
  let _ ← hashValue (Json.field fields "stateDigest") "payload.stateDigest"
  unlessAbsent (Json.field fields "evidenceRef") fun present =>
    opaqueReference present "payload.evidenceRef"
  validateOptionalSupersedesRevision (Json.field fields "supersedesRevision") membershipRevision
  return { fields, contactId, segmentId, membershipRevision }

def customerSegmentMembershipStreamId (contactId segmentId : String) : String :=
  contactId ++ ":" ++ segmentId

/-- The text of a value with the names of its objects in order. -/
def canonicalJson (host : ContractHost) (value : Json) : String :=
  Json.stringify host.numberText (Json.canonicalize value)

def canonicalSegmentMembershipHash (host : ContractHost) (value : Option Json) :
    Except J3ContractError String := do
  let payload ← validateSegmentMembershipChangePayload host value
  return host.sha256 (canonicalJson host
    (.obj [("tenantId", .str host.tenantId), ("payload", .obj payload.fields)]))

def validateEnvelope (host : ContractHost) (fields : List (String × Json)) :
    Except J3ContractError PUnit := do
  exactKeys fields "envelope"
    ["schemaVersion", "eventKind", "eventId", "type", "tenantId", "occurredAt", "correlationId",
      "orderingKey", "aggregateType", "aggregateId", "aggregateVersion", "payload"]
    ["causationId"]
  ensure ((Json.field fields "schemaVersion").bind Json.integer? = some 2)
    { code := .unsupportedSchemaVersion
      message := "J3 ต้องใช้ Kafka envelope schemaVersion=2: " ++
        host.text (Json.field fields "schemaVersion") }
  let _ ← opaqueReference (Json.field fields "eventId") "envelope.eventId"
  let _ ← opaqueReference (Json.field fields "tenantId") "envelope.tenantId"
  let _ ← timestamp host (Json.field fields "occurredAt") "envelope.occurredAt"
  let _ ← opaqueReference (Json.field fields "correlationId") "envelope.correlationId"
  unlessAbsent (Json.field fields "causationId") fun present =>
    opaqueReference present "envelope.causationId"
  let _ ← objectValue (Json.field fields "payload") "envelope.payload"

/-- The texts which the aggregate metadata of the envelope must show. -/
def isText (fields : List (String × Json)) (name text : String) : Bool :=
  match Json.field fields name with
  | some (.str found) => found == text
  | _ => false

def assertSegmentMembershipChangeEnvelope (host : ContractHost) (fields : List (String × Json)) :
    Except J3ContractError (List (String × Json)) := do
  validateEnvelope host fields
  let payload ← validateSegmentMembershipChangePayload host (Json.field fields "payload")
  let streamId := customerSegmentMembershipStreamId payload.contactId payload.segmentId
  ensure (isText fields "orderingKey" streamId = true ∧ isText fields "aggregateId" streamId = true)
    { code := .orderingKeyMismatch
      message := "orderingKey และ aggregateId ต้องตรงกับ contactId:segmentId" }
  ensure (isText fields "eventKind" "CANONICAL" = true ∧
      isText fields "type" "customer.segment.changed" = true ∧
      isText fields "aggregateType" "customer_segment_membership" = true ∧
      (Json.field fields "aggregateVersion").bind Json.integer? = some payload.membershipRevision)
    { code := .bindingMismatch
      message := "Kafka V2 aggregate metadata ไม่ตรงกับ canonical membership payload" }
  return fields

end DContact.Customer360

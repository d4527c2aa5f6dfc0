import DContact.Governance.CallbackRequests

/-!
# Recording preferences

A preference is never changed. Setting one appends the next version of its scope, and
revoking one appends a version without a decision that lasts as long as what it revokes.
Both name the row they supersede, the latest of the scope, and both advance the head of
the contact by one. A repeated command is answered from its receipt.
-/

namespace DContact.Governance

open Lib

structure PreferenceScope where
  identityId : Option String
  channel : Option ContactChannel
  purpose : Option String
  contactKind : Option String

/-- A time that is given is `none` when its text is no timestamp. -/
structure AppendPreferenceInput where
  tenantId : String
  contactId : String
  identityId : Option String
  seriesId : Option String
  channel : Option ContactChannel
  purpose : Option String
  contactKind : Option String
  decision : PreferenceDecision
  timezone : Option String
  preferredWindows : Json
  sourceKind : SourceKind
  sourceVersion : Option String
  occurredAt : Option Instant
  effectiveFrom : Option Instant
  effectiveTo : Option (Option Instant)
  evidenceRef : String
  actorClass : String
  actorRef : String
  idempotencyKey : String
  expectedVersion : Int
  correlationId : String

structure RevokePreferenceInput where
  tenantId : String
  contactId : String
  preferenceId : String
  sourceKind : Option SourceKind
  sourceVersion : Option String
  occurredAt : Option Instant
  evidenceRef : String
  actorClass : String
  actorRef : String
  idempotencyKey : String
  expectedVersion : Int
  correlationId : String

structure PreferenceMutationResult where
  mutationId : String
  eventId : String
  aggregateVersion : Nat
  preference : PreferenceRow

/-- The receipts of `PREFERENCE_SET` and `PREFERENCE_REVOKE`. -/
structure PreferenceReceipt where
  operation : PreferenceMutation
  idempotencyKey : String
  requestHash : String
  response : PreferenceMutationResult

inductive PreferenceError where
  | invalid (failure : ExceptionError)
  | windows (failure : ContentError)
  | expectedVersionInvalid
  | endsBeforeItBegins
  | timezoneInvalid
  | idempotencyConflict (idempotencyKey : String)
  | resourceNotFound
  | versionConflict (expected : Int) (actual : Nat)
  | constraintViolation (name : String)

structure PreferenceDigests where
  scope : PreferenceScope → String
  append : AppendPreferenceInput → String
  revoke : RevokePreferenceInput → String
  state : Option String → PreferenceRow → String

structure PreferenceIds where
  seriesId : String
  mutationId : String
  rowId : String
  eventId : String

/-- The tables, of which the preferences and the heads are written, and the receipts. -/
structure PreferenceState where
  tables : FactTables
  receipts : List PreferenceReceipt

/-- `optionalString`: a text that is given must not be blank. -/
def optionalString (field : String) (value : Option String) :
    Except PreferenceError (Option String) :=
  match value with
  | none => .ok none
  | some text => ((nonEmpty field text).mapError .invalid).map some

/-- `validateCgScope` on the four dimensions; a channel is one of the known ones by its type. -/
def validateCgScope (input : AppendPreferenceInput) : Except PreferenceError PreferenceScope := do
  let identityId ← optionalString "identityId" input.identityId
  let purpose ← optionalString "purpose" input.purpose
  let contactKind ← optionalString "contactKind" input.contactKind
  .ok ⟨identityId, input.channel, purpose, contactKind⟩

def givenInstant (field : String) (value : Option (Option Instant)) :
    Except PreferenceError (Option Instant) :=
  match value with
  | none => .ok none
  | some parsed => ((instant field parsed).mapError .invalid).map some

/-- What the checks have read: the three times, the windows and the scope. -/
structure CheckedPreference where
  occurredAt : Instant
  effectiveFrom : Instant
  effectiveTo : Option Instant
  preferredWindows : List LocalTimeWindow
  scope : PreferenceScope

def checkAppend (zones : ZoneDatabase) (input : AppendPreferenceInput) :
    Except PreferenceError CheckedPreference := do
  (nonEmptyFields [("tenantId", input.tenantId), ("contactId", input.contactId),
    ("evidenceRef", input.evidenceRef), ("actorClass", input.actorClass),
    ("actorRef", input.actorRef), ("idempotencyKey", input.idempotencyKey),
    ("correlationId", input.correlationId)]).mapError .invalid
  ensure (0 ≤ input.expectedVersion) .expectedVersionInvalid
  let occurredAt ← (instant "occurredAt" input.occurredAt).mapError .invalid
  let effectiveFrom ← (instant "effectiveFrom" input.effectiveFrom).mapError .invalid
  let effectiveTo ← givenInstant "effectiveTo" input.effectiveTo
  ensure (∀ ends ∈ effectiveTo, effectiveFrom < ends) .endsBeforeItBegins
  ensure (∀ timezone ∈ input.timezone, timezone ≠ "" → (zones timezone).isSome = true) .timezoneInvalid
  let preferredWindows ← (normalizeLocalTimeWindows input.preferredWindows).mapError .windows
  let scope ← validateCgScope input
  .ok ⟨occurredAt, effectiveFrom, effectiveTo, preferredWindows, scope⟩

def checkRevoke (input : RevokePreferenceInput) : Except PreferenceError Instant := do
  (nonEmptyFields [("tenantId", input.tenantId), ("contactId", input.contactId),
    ("preferenceId", input.preferenceId), ("evidenceRef", input.evidenceRef),
    ("actorClass", input.actorClass), ("actorRef", input.actorRef),
    ("idempotencyKey", input.idempotencyKey), ("correlationId", input.correlationId)]).mapError
      .invalid
  ensure (0 ≤ input.expectedVersion) .expectedVersionInvalid
  (instant "occurredAt" input.occurredAt).mapError .invalid

/-- The indexes and checks of `cg_preferences`. -/
def insertPreference (rows : List PreferenceRow) (row : PreferenceRow) :
    Except PreferenceError (List PreferenceRow) := do
  ensure (∀ other ∈ rows, other.id ≠ row.id) (.constraintViolation "cg_preferences_pkey")
  ensure (∀ ends ∈ row.effectiveTo, row.effectiveFrom < ends)
    (.constraintViolation "cg_preferences_effective_period_check")
  ensure (∀ other ∈ rows, other.seriesId = row.seriesId → other.version ≠ row.version)
    (.constraintViolation "cg_preferences_tenant_id_series_id_version_key")
  ensure (∀ other ∈ rows, other.contactId = row.contactId → other.scopeHash = row.scopeHash →
      other.version ≠ row.version)
    (.constraintViolation "cg_preferences_tenant_id_contact_id_scope_hash_version_key")
  ensure (row.sourceVersion.isSome = true → ∀ other ∈ rows, other.contactId = row.contactId →
      other.scopeHash = row.scopeHash → other.sourceKind = row.sourceKind →
      other.sourceVersion ≠ row.sourceVersion)
    (.constraintViolation "cg_preferences_source_version_key")
  .ok (rows ++ [row])

def latestInScope (rows : List PreferenceRow) (contactId scopeHash : String) : Option PreferenceRow :=
  Table.latest PreferenceRow.version
    (rows.filter fun row => row.contactId == contactId && row.scopeHash == scopeHash)

def latestInSeries (rows : List PreferenceRow) (seriesId : Option String) : Option PreferenceRow :=
  match seriesId with
  | none => none
  | some series =>
      if series = "" then none
      else Table.latest PreferenceRow.version (rows.filter fun row => row.seriesId == series)

def advanceHead (heads : List ContactStateHead) (head : ContactStateHead) : List ContactStateHead :=
  heads.filter (fun other => other.contactId ≠ head.contactId) ++ [head]

def recordPreference (digests : PreferenceDigests) (state : PreferenceState)
    (operation : PreferenceMutation) (idempotencyKey : String) (aggregateVersion : Nat)
    (row : PreferenceRow) (ids : PreferenceIds) :
    Except PreferenceError (PreferenceMutationResult × PreferenceState) := do
  let rows ← insertPreference state.tables.preferences row
  let before := Table.lookup ContactStateHead.contactId row.contactId state.tables.stateHeads
  let digest := digests.state (before.map ContactStateHead.currentDigest) row
  let heads := advanceHead state.tables.stateHeads
    ⟨row.contactId, aggregateVersion, digest, some ids.mutationId⟩
  let result : PreferenceMutationResult := ⟨ids.mutationId, ids.eventId, aggregateVersion, row⟩
  .ok (result,
    { tables := { state.tables with preferences := rows, stateHeads := heads }
      receipts := state.receipts ++ [⟨operation, idempotencyKey, row.requestHash, result⟩] })

/-- The version of the head that the command must have seen. -/
def checkHead (state : PreferenceState) (contactId : String) (expectedVersion : Int) :
    Except PreferenceError Nat := do
  let actualVersion := ((Table.lookup ContactStateHead.contactId contactId
    state.tables.stateHeads).map ContactStateHead.aggregateVersion).getD 0
  ensure ((actualVersion : Int) = expectedVersion) (.versionConflict expectedVersion actualVersion)
  .ok actualVersion

def PreferenceState.receipt (state : PreferenceState) (operation : PreferenceMutation)
    (idempotencyKey : String) : Option PreferenceReceipt :=
  state.receipts.find? fun receipt =>
    receipt.operation == operation && receipt.idempotencyKey == idempotencyKey

def PreferenceState.answered (state : PreferenceState) (operation : PreferenceMutation)
    (idempotencyKey requestHash : String)
    (otherwise : Except PreferenceError (PreferenceMutationResult × PreferenceState)) :
    Except PreferenceError (PreferenceMutationResult × PreferenceState) :=
  match state.receipt operation idempotencyKey with
  | some receipt =>
      if receipt.requestHash ≠ requestHash then .error (.idempotencyConflict idempotencyKey)
      else .ok (receipt.response, state)
  | none => otherwise

def appendedRow (digests : PreferenceDigests) (input : AppendPreferenceInput)
    (checked : CheckedPreference) (inScope inSeries : Option PreferenceRow) (ids : PreferenceIds) :
    PreferenceRow where
  id := ids.rowId
  seriesId := input.seriesId.getD ((inScope.map PreferenceRow.seriesId).getD ids.seriesId)
  version := max ((inScope.map PreferenceRow.version).getD 0)
    ((inSeries.map PreferenceRow.version).getD 0) + 1
  contactId := input.contactId
  identityId := input.identityId
  channel := input.channel
  purpose := input.purpose
  contactKind := input.contactKind
  scopeHash := digests.scope checked.scope
  decision := some input.decision
  timezone := input.timezone
  preferredWindows := checked.preferredWindows
  sourceKind := input.sourceKind
  sourceVersion := input.sourceVersion
  occurredAt := checked.occurredAt
  effectiveFrom := checked.effectiveFrom
  effectiveTo := checked.effectiveTo
  mutationKind := .set
  supersedesId := inScope.map PreferenceRow.id
  requestHash := digests.append input
  evidenceRef := input.evidenceRef
  actorClass := input.actorClass

def preferenceSubjectKnown (tables : FactTables) (input : AppendPreferenceInput) : Bool :=
  tables.contacts.contains input.contactId &&
    (!isGiven input.identityId || tables.identities.any fun row =>
      some row.id == input.identityId && row.contactId == input.contactId)

/-- `Cg3PreferenceRepository.append`, under the lock of the contact. -/
def PreferenceRepository.append (zones : ZoneDatabase) (digests : PreferenceDigests) (state : PreferenceState)
    (input : AppendPreferenceInput) (ids : PreferenceIds) :
    Except PreferenceError (PreferenceMutationResult × PreferenceState) := do
  let checked ← checkAppend zones input
  state.answered .set input.idempotencyKey (digests.append input) do
    ensure (preferenceSubjectKnown state.tables input = true) .resourceNotFound
    let actualVersion ← checkHead state input.contactId input.expectedVersion
    let scopeHash := digests.scope checked.scope
    let inScope := latestInScope state.tables.preferences input.contactId scopeHash
    let inSeries := latestInSeries state.tables.preferences input.seriesId
    ensure (∀ other ∈ inSeries, other.contactId = input.contactId ∧ other.scopeHash = scopeHash)
      (.idempotencyConflict input.idempotencyKey)
    recordPreference digests state .set input.idempotencyKey (actualVersion + 1)
      (appendedRow digests input checked inScope inSeries ids) ids

def revokedRow (digests : PreferenceDigests) (input : RevokePreferenceInput) (occurredAt : Instant)
    (target : PreferenceRow) (ids : PreferenceIds) : PreferenceRow :=
  { target with
    id := ids.rowId
    version := target.version + 1
    contactId := input.contactId
    decision := none
    sourceKind := input.sourceKind.getD target.sourceKind
    sourceVersion := input.sourceVersion
    occurredAt := occurredAt
    effectiveFrom := occurredAt
    mutationKind := .revoke
    supersedesId := some target.id
    requestHash := digests.revoke input
    evidenceRef := input.evidenceRef
    actorClass := input.actorClass }

/-- `Cg3PreferenceRepository.revoke`, under the lock of the contact. Only the latest row of
its scope can be revoked. -/
def PreferenceRepository.revoke (digests : PreferenceDigests) (state : PreferenceState) (input : RevokePreferenceInput)
    (ids : PreferenceIds) : Except PreferenceError (PreferenceMutationResult × PreferenceState) := do
  let occurredAt ← checkRevoke input
  state.answered .revoke input.idempotencyKey (digests.revoke input) do
    let target ← orFail (state.tables.preferences.find? fun row =>
      row.id == input.preferenceId && row.contactId == input.contactId) .resourceNotFound
    let actualVersion ← checkHead state input.contactId input.expectedVersion
    ensure ((latestInScope state.tables.preferences input.contactId target.scopeHash).map
      PreferenceRow.id = some target.id) .resourceNotFound
    recordPreference digests state .revoke input.idempotencyKey (actualVersion + 1)
      (revokedRow digests input occurredAt target ids) ids

end DContact.Governance

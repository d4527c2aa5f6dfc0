import DContact.Governance.FactLoader

/-!
# Requests for a callback

A customer who asks to be called back leaves a request in the series of one exact scope.
The rows of a series are numbered, and the row after a request uses it up, replaces it or
takes it back; the unique index on the number within the series lets only one row do so.
-/

namespace DContact.Governance

open Lib

/-- The unique indexes of `cg_callback_requests`, by name when they are violated. Rows without
a source version do not meet in the last one. -/
def insertCallback (callbacks : List CallbackRow) (row : CallbackRow) :
    Except String (List CallbackRow) := do
  ensure (∀ other ∈ callbacks, other.id ≠ row.id) "cg_callback_requests_pkey"
  ensure (∀ other ∈ callbacks, other.seriesId = row.seriesId → other.version ≠ row.version)
    "cg_callback_requests_tenant_id_series_id_version_key"
  ensure (∀ other ∈ callbacks, other.oneUseTokenHash ≠ row.oneUseTokenHash)
    "cg_callback_requests_tenant_id_one_use_token_hash_key"
  ensure (row.sourceVersion.isSome = true → ∀ other ∈ callbacks, other.contactId = row.contactId →
      other.sourceKind = row.sourceKind → other.sourceVersion ≠ row.sourceVersion)
    "cg_callback_requests_source_version_key"
  .ok (callbacks ++ [row])

/-- Rows differ in their identifiers and in their numbers within a series. -/
structure CallbacksKeyed (callbacks : List CallbackRow) : Prop where
  ids : (callbacks.map CallbackRow.id).Nodup
  series : (callbacks.map fun row => (row.seriesId, row.version)).Nodup

variable {callbacks after : List CallbackRow} {row : CallbackRow}

theorem insertCallback_ok (inserted : insertCallback callbacks row = .ok after) :
    after = callbacks ++ [row] ∧ (∀ other ∈ callbacks, other.id ≠ row.id) ∧
      ∀ other ∈ callbacks, other.seriesId = row.seriesId → other.version ≠ row.version := by
  obtain ⟨_, fresh, inserted⟩ := bind_ok inserted
  obtain ⟨_, numbered, inserted⟩ := bind_ok inserted
  replace inserted := rest_ok (rest_ok inserted)
  cases inserted
  exact ⟨rfl, ensure_ok.mp fresh, ensure_ok.mp numbered⟩

theorem CallbacksKeyed.insert (keyed : CallbacksKeyed callbacks)
    (inserted : insertCallback callbacks row = .ok after) : CallbacksKeyed after := by
  obtain ⟨rfl, fresh, numbered⟩ := insertCallback_ok inserted
  constructor
  · apply Table.nodup_append keyed.ids
    intro known
    obtain ⟨other, mem, same⟩ := List.mem_map.mp known
    exact fresh other mem same
  · apply Table.nodup_append keyed.series
    intro known
    obtain ⟨other, mem, same⟩ := List.mem_map.mp known
    exact numbered other mem (congrArg Prod.fst same) (congrArg Prod.snd same)

structure RequestCallbackInput where
  tenantId : String
  contactId : String
  identityId : Option String
  channel : ContactChannel
  purpose : String
  requestedAt : Option Instant
  requestedTimezone : String
  expiresAt : Option Instant
  sourceKind : SourceKind
  sourceVersion : Option String
  evidenceRef : String
  actorClass : String
  actorRef : String
  idempotencyKey : String
  expectedVersion : Int
  correlationId : String

structure RequestCallbackResult where
  mutationId : String
  callbackRequest : CallbackRow
  oneUseToken : String

/-- The receipts of `CALLBACK_REQUEST_CREATE`. -/
structure CallbackReceipt where
  idempotencyKey : String
  requestHash : String
  response : RequestCallbackResult

inductive CallbackError where
  | invalid (failure : ExceptionError)
  | expectedVersionInvalid
  | expiresBeforeRequested
  | timezoneInvalid
  | idempotencyConflict (idempotencyKey : String)
  | resourceNotFound
  | versionConflict (expected : Int) (actual : Nat)
  | constraintViolation (name : String)

/-- Random identifiers and tokens of one command. -/
structure CallbackIds where
  seriesId : String
  rowId : String
  mutationId : String
  oneUseToken : String

structure CallbackDigests where
  request : RequestCallbackInput → String
  token : String → String

def onInvalid {α : Type} (result : Except ExceptionError α) : Except CallbackError α :=
  result.mapError .invalid

/-- The checks before the transaction, with the two parsed times. -/
def checkCallbackInput (zones : ZoneDatabase) (input : RequestCallbackInput) :
    Except CallbackError (Instant × Instant) := do
  onInvalid (nonEmptyFields [("tenantId", input.tenantId), ("contactId", input.contactId),
    ("purpose", input.purpose), ("requestedTimezone", input.requestedTimezone),
    ("evidenceRef", input.evidenceRef), ("actorClass", input.actorClass),
    ("actorRef", input.actorRef), ("idempotencyKey", input.idempotencyKey),
    ("correlationId", input.correlationId)])
  ensure (0 ≤ input.expectedVersion) .expectedVersionInvalid
  let requestedAt ← onInvalid (instant "requestedAt" input.requestedAt)
  let expiresAt ← onInvalid (instant "expiresAt" input.expiresAt)
  ensure (requestedAt < expiresAt) .expiresBeforeRequested
  ensure ((zones input.requestedTimezone).isSome = true) .timezoneInvalid
  .ok (requestedAt, expiresAt)

def callbackRequestRow (digests : CallbackDigests) (input : RequestCallbackInput)
    (times : Instant × Instant) (latest : Option CallbackRow) (ids : CallbackIds) : CallbackRow where
  id := ids.rowId
  seriesId := (latest.map CallbackRow.seriesId).getD ids.seriesId
  version := (latest.map CallbackRow.version).getD 0 + 1
  contactId := input.contactId
  identityId := input.identityId
  channel := input.channel
  purpose := input.purpose
  requestedAt := times.1
  requestedTimezone := input.requestedTimezone
  expiresAt := times.2
  sourceKind := input.sourceKind
  sourceVersion := input.sourceVersion
  oneUseTokenHash := digests.token ids.oneUseToken
  approvedExceptionId := none
  mutationKind := .request
  supersedesId := latest.map CallbackRow.id
  evidenceRef := input.evidenceRef
  requestHash := digests.request input
  actorClass := input.actorClass

def callbackSubjectKnown (tables : FactTables) (input : RequestCallbackInput) : Bool :=
  tables.contacts.contains input.contactId &&
    (!isGiven input.identityId || tables.identities.any fun row =>
      some row.id == input.identityId && row.contactId == input.contactId)

def createCallback (digests : CallbackDigests) (tables : FactTables) (callbacks : List CallbackRow)
    (receipts : List CallbackReceipt) (input : RequestCallbackInput) (times : Instant × Instant)
    (ids : CallbackIds) :
    Except CallbackError (RequestCallbackResult × List CallbackRow × List CallbackReceipt) := do
  ensure (callbackSubjectKnown tables input = true) .resourceNotFound
  let latest := latestCallback callbacks
    ⟨input.contactId, input.identityId, input.channel, input.purpose, none, times.1⟩
  let actualVersion := (latest.map CallbackRow.version).getD 0
  ensure ((actualVersion : Int) = input.expectedVersion)
    (.versionConflict input.expectedVersion actualVersion)
  let created := callbackRequestRow digests input times latest ids
  let after ← (insertCallback callbacks created).mapError .constraintViolation
  let result : RequestCallbackResult := ⟨ids.mutationId, created, ids.oneUseToken⟩
  .ok (result, after, receipts ++ [⟨input.idempotencyKey, digests.request input, result⟩])

/-- `Cg3CallbackRepository.request`, under the lock of the contact, channel and purpose. -/
def requestCallback (zones : ZoneDatabase) (digests : CallbackDigests) (tables : FactTables)
    (callbacks : List CallbackRow) (receipts : List CallbackReceipt) (input : RequestCallbackInput)
    (ids : CallbackIds) :
    Except CallbackError (RequestCallbackResult × List CallbackRow × List CallbackReceipt) := do
  let times ← checkCallbackInput zones input
  match Table.lookup CallbackReceipt.idempotencyKey input.idempotencyKey receipts with
  | some receipt =>
      if receipt.requestHash ≠ digests.request input then
        .error (.idempotencyConflict input.idempotencyKey)
      else .ok (receipt.response, callbacks, receipts)
  | none => createCallback digests tables callbacks receipts input times ids

/-- What the command leaves in the table: nothing new, or one more request. -/
theorem requestCallback_callbacks {zones : ZoneDatabase} {digests : CallbackDigests}
    {tables : FactTables}
    {receipts afterReceipts : List CallbackReceipt} {input : RequestCallbackInput}
    {ids : CallbackIds} {result : RequestCallbackResult}
    (ok : requestCallback zones digests tables callbacks receipts input ids =
      .ok (result, after, afterReceipts)) :
    after = callbacks ∨ ∃ row, row.mutationKind = .request ∧
      insertCallback callbacks row = .ok after := by
  obtain ⟨times, -, ok⟩ := bind_ok ok
  split at ok
  next =>
    split at ok
    next => cases ok
    cases ok
    exact .inl rfl
  next =>
    replace ok := rest_ok (rest_ok ok)
    obtain ⟨rows, inserted, ok⟩ := bind_ok ok
    cases ok
    exact .inr ⟨_, rfl, mapError_ok.mp inserted⟩

end DContact.Governance

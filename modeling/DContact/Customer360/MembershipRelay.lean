import DContact.Customer360.MembershipContract
import DContact.Customer360.MembershipStore
import DContact.Lib.Sessions
import Mathlib.Data.Prod.Lex

/-!
# The relay of membership changes

Every change of a membership stream leaves a row in the outbox, and any number of workers call
`publishNext` to take the oldest row that is due, to send its envelope and to say what became of
it. The selection reads the committed rows at one moment and then locks the candidates one after
the other, passing over those that another call holds. A call ends with its commit, or breaks off
at any point and leaves the row as it was.
-/

namespace DContact.Customer360

open Lib
open Governance (Instant toISOString)

inductive OutboxState where
  | pending
  | failed
  | published
  | quarantined

/-- What was committed with the change; `c360_guard_membership_outbox_update` lets none of it
change. -/
structure OutboxRecord where
  id : Nat
  eventId : String
  stream : MembershipStream
  membershipRevision : Nat
  payload : Json
  payloadHash : String
  correlationId : String
  causationId : Option String
  changeCreatedAt : Instant
  createdAt : Instant

structure SegmentMembershipOutbox where
  record : OutboxRecord
  state : OutboxState
  attempts : Nat
  availableAt : Instant
  publishedAt : Option Instant
  quarantinedAt : Option Instant

namespace SegmentMembershipOutbox

def waiting (row : SegmentMembershipOutbox) : Bool :=
  match row.state with
  | .pending | .failed => true
  | .published | .quarantined => false

/-- A row as it is committed with its change. -/
def fresh (record : OutboxRecord) (availableAt : Instant) : SegmentMembershipOutbox where
  record := record
  state := .pending
  attempts := 0
  availableAt := availableAt
  publishedAt := none
  quarantinedAt := none

end SegmentMembershipOutbox

/-- `ORDER BY o.created_at, o.id`. -/
def OutboxRecord.rank (record : OutboxRecord) : Instant ×ₗ Nat := toLex (record.createdAt, record.id)

structure RelayHost where
  contract : ContractHost
  backoffMs : Nat → Int

/-- `defaultBackoffMs`. -/
def defaultBackoffMs (attempts : Nat) : Int := min (2 ^ attempts * 1000) (5 * 60000)

/-- Why a row is not sent: the row itself is broken, or something else failed. -/
inductive ComposeError where
  | corruption (reason : String)
  | failure (reason : String)

abbrev Envelope := List (String × Json)

/-- What the relay does with a row before it turns to the broker. -/
def composeEnvelope (host : ContractHost) (record : OutboxRecord) : Except ComposeError Envelope := do
  let payload ← (validateSegmentMembershipChangePayload host (some record.payload)).mapError
    fun error => .corruption ("payload ใน outbox ไม่ผ่าน contract: " ++ error.message)
  let payloadHash ← (canonicalSegmentMembershipHash host (some (.obj payload.fields))).mapError
    fun error => .failure error.message
  ensure (payloadHash = record.payloadHash)
    (ComposeError.corruption "payload hash ไม่ตรงกับที่ commit ไว้ตอนสร้าง outbox row")
  let streamId := customerSegmentMembershipStreamId payload.contactId payload.segmentId
  let envelope : Envelope :=
    [("schemaVersion", .num 2), ("eventKind", .str "CANONICAL"), ("eventId", .str record.eventId),
      ("type", .str "customer.segment.changed"), ("tenantId", .str host.tenantId),
      ("occurredAt", .str (toISOString record.changeCreatedAt)),
      ("correlationId", .str record.correlationId)] ++
    (match record.causationId with
      | some causationId =>
          if causationId = "" then [] else [("causationId", .str causationId)]
      | none => []) ++
    [("orderingKey", .str streamId), ("aggregateType", .str "customer_segment_membership"),
      ("aggregateId", .str streamId), ("aggregateVersion", .num record.membershipRevision),
      ("payload", .obj payload.fields)]
  (assertSegmentMembershipChangeEnvelope host envelope).mapError
    fun error => .corruption ("envelope ประกอบจาก row นี้ไม่ผ่าน contract: " ++ error.message)

/-- What a call writes about its row. -/
inductive RelayVerdict where
  | published
  | failed
  | quarantined
  deriving DecidableEq

def ComposeError.verdict : ComposeError → RelayVerdict
  | .corruption _ => .quarantined
  | .failure _ => .failed

/-- The update at the end of `publishNext`. -/
def SegmentMembershipOutbox.settle (host : RelayHost) (now : Instant) (verdict : RelayVerdict)
    (row : SegmentMembershipOutbox) : SegmentMembershipOutbox :=
  match verdict with
  | .published =>
      { row with state := .published, attempts := row.attempts + 1, publishedAt := some now }
  | .quarantined =>
      { row with state := .quarantined, attempts := row.attempts + 1, quarantinedAt := some now }
  | .failed =>
      { row with
        state := .failed
        attempts := row.attempts + 1
        availableAt := now + host.backoffMs (row.attempts + 1) }

/-- How far a call of `publishNext` has come. -/
inductive RelayStage where
  /-- The candidates of the snapshot that were not looked at yet. -/
  | selecting (ahead : List OutboxRecord)
  | locked (record : OutboxRecord)
  | composed (record : OutboxRecord) (envelope : Envelope)
  | sending (record : OutboxRecord) (envelope : Envelope)
  | settling (record : OutboxRecord) (verdict : RelayVerdict)

/-- The row that the call has locked. -/
def RelayStage.record? : RelayStage → Option OutboxRecord
  | .selecting _ => none
  | .locked record | .composed record _ | .sending record _ | .settling record _ => some record

/-- A call, with the time it took at its start, and whether its transaction still lives. -/
structure RelayCall where
  now : Instant
  live : Bool
  stage : RelayStage

def RelayCall.lock (call : RelayCall) : Option Nat :=
  if call.live then call.stage.record?.map OutboxRecord.id else none

/-- What happened, in order. -/
inductive RelayEvent where
  | began (worker : Nat) (now : Instant)
  | idle (worker : Nat)
  | took (worker : Nat) (record : OutboxRecord)
  | sent (worker : Nat) (record : OutboxRecord) (envelope : Envelope)
  | acknowledged (worker : Nat) (record : OutboxRecord)
  | settled (worker : Nat) (record : OutboxRecord) (verdict : RelayVerdict)
  | broke (worker : Nat) (record : Option OutboxRecord)

structure RelayWorld where
  rows : List SegmentMembershipOutbox
  calls : List (Session RelayCall)
  journal : List RelayEvent

namespace RelayWorld

def row (world : RelayWorld) (id : Nat) : Option SegmentMembershipOutbox :=
  Table.lookup (fun row => row.record.id) id world.rows

def ofStream (world : RelayWorld) (stream : MembershipStream) : List SegmentMembershipOutbox :=
  world.rows.filter fun row => row.record.stream = stream

/-- `earlier`: a row of the same stream and a lower revision still waits. -/
def blocked (world : RelayWorld) (record : OutboxRecord) : Bool :=
  world.rows.any fun earlier =>
    decide (earlier.record.stream = record.stream) &&
      decide (earlier.record.membershipRevision < record.membershipRevision) && earlier.waiting

/-- The conditions of the selection that concern the row alone. -/
def due (now : Instant) (row : SegmentMembershipOutbox) : Bool :=
  row.waiting && decide (row.availableAt ≤ now)

/-- The rows which the selection finds, in its order. -/
def candidates (world : RelayWorld) (now : Instant) : List OutboxRecord :=
  ((world.rows.filter fun row => due now row && !world.blocked row.record).map
    SegmentMembershipOutbox.record).insertionSort fun left right => left.rank ≤ right.rank

/-- `FOR UPDATE SKIP LOCKED`: no other call holds the row, and as it is committed now the
conditions on the row alone are still met. -/
def takeable (world : RelayWorld) (worker : Nat) (now : Instant) (record : OutboxRecord) : Bool :=
  !Session.others world.calls worker (fun call => call.lock == some record.id) &&
    (world.row record.id).any (due now)

def advance (world : RelayWorld) (worker : Nat) (call : RelayCall) (events : List RelayEvent) :
    RelayWorld :=
  { world with
    calls := Session.replace world.calls worker call
    journal := world.journal ++ events }

def finish (world : RelayWorld) (worker : Nat) (event : RelayEvent) : RelayWorld :=
  { world with
    calls := Session.drop world.calls worker
    journal := world.journal ++ [event] }

def write (world : RelayWorld) (id : Nat)
    (rewrite : SegmentMembershipOutbox → SegmentMembershipOutbox) : RelayWorld :=
  { world with rows := Table.update (fun row => row.record.id) id rewrite world.rows }

end RelayWorld

inductive RelayStep where
  /-- A membership change is committed with its row. -/
  | append (record : OutboxRecord) (availableAt : Instant)
  /-- A worker calls `publishNext` and selects the candidates. -/
  | begin (worker : Nat) (now : Instant)
  /-- The next candidate is passed over. -/
  | skip (worker : Nat)
  | take (worker : Nat)
  /-- No candidate is left: `publishNext` returns `undefined`. -/
  | idle (worker : Nat)
  /-- The row is read and its envelope composed. -/
  | compose (worker : Nat)
  | send (worker : Nat)
  /-- The broker acknowledges the message, or the send fails. -/
  | answer (worker : Nat) (acknowledged : Bool)
  | commit (worker : Nat)
  /-- The transaction of the call is rolled back while the call itself goes on. -/
  | lapse (worker : Nat)
  /-- The call ends without a commit. -/
  | crash (worker : Nat)

/-- A change takes the next revision of its stream, and its row a new identifier. -/
def RelayWorld.appendable (world : RelayWorld) (record : OutboxRecord) : Bool :=
  decide (record.membershipRevision = (world.ofStream record.stream).length + 1) &&
    decide (∀ row ∈ world.rows, row.record.id ≠ record.id)

/-- What the broker's answer makes of the row. -/
def verdictOf (acknowledged : Bool) : RelayVerdict := if acknowledged then .published else .failed

open RelayWorld in
def proceed (host : RelayHost) (world : RelayWorld) (worker : Nat) (call : RelayCall) :
    RelayStep → Option RelayWorld
  | .skip _ =>
      match call.stage with
      | .selecting (record :: ahead) =>
          if world.takeable worker call.now record then none
          else some (world.advance worker { call with stage := .selecting ahead } [])
      | _ => none
  | .take _ =>
      match call.stage with
      | .selecting (record :: _) =>
          if call.live && world.takeable worker call.now record then
            some (world.advance worker { call with stage := .locked record } [.took worker record])
          else none
      | _ => none
  | .idle _ =>
      match call.stage with
      | .selecting [] => if call.live then some (world.finish worker (.idle worker)) else none
      | _ => none
  | .compose _ =>
      match call.stage with
      | .locked record =>
          if call.live then
            match composeEnvelope host.contract record with
            | .ok envelope =>
                some (world.advance worker { call with stage := .composed record envelope } [])
            | .error error =>
                some (world.advance worker { call with stage := .settling record error.verdict } [])
          else none
      | _ => none
  | .send _ =>
      match call.stage with
      | .composed record envelope =>
          some (world.advance worker { call with stage := .sending record envelope }
            [.sent worker record envelope])
      | _ => none
  | .answer _ acknowledged =>
      match call.stage with
      | .sending record _ =>
          some (world.advance worker
            { call with stage := .settling record (verdictOf acknowledged) }
            (if acknowledged then [.acknowledged worker record] else []))
      | _ => none
  | .commit _ =>
      match call.stage with
      | .settling record verdict =>
          if call.live then
            some ((world.write record.id (SegmentMembershipOutbox.settle host call.now verdict)).finish
              worker (.settled worker record verdict))
          else none
      | _ => none
  | .lapse _ =>
      if call.live then
        some (world.advance worker { call with live := false } [.broke worker call.stage.record?])
      else none
  | .crash _ =>
      some (world.finish worker (.broke worker (if call.live then call.stage.record? else none)))
  | .append _ _ | .begin _ _ => none

def RelayStep.worker? : RelayStep → Option Nat
  | .append _ _ | .begin _ _ => none
  | .skip worker | .take worker | .idle worker | .compose worker | .send worker
  | .answer worker _ | .commit worker | .lapse worker | .crash worker => some worker

def relayNext (host : RelayHost) (world : RelayWorld) : RelayStep → Option RelayWorld
  | .append record availableAt =>
      if world.appendable record then
        some { world with rows := world.rows ++ [.fresh record availableAt] }
      else none
  | .begin worker now =>
      match Session.find world.calls worker with
      | none =>
          some (world.advance worker ⟨now, true, .selecting (world.candidates now)⟩
            [.began worker now])
      | some _ => none
  | step =>
      match step.worker? with
      | none => none
      | some worker =>
          match Session.find world.calls worker with
          | none => none
          | some call => proceed host world worker call step

/-- A tenant whose outbox is empty. -/
def RelayWorld.initial : RelayWorld := ⟨[], [], []⟩

/-- All runs of the relay of one tenant. -/
def membershipRelay (host : RelayHost) : System RelayWorld RelayStep :=
  .ofNext (· = .initial) (relayNext host)

end DContact.Customer360

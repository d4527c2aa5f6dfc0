import DContact.Governance.LocalTime
import DContact.Lib.Sessions
import DContact.Lib.Table
import DContact.Lib.Transition

/-!
# A compliance export

One export job, its row, its objects, and the calls that move it: workers that run it, erasure
requests that revoke it, the retention run that lets it expire, and downloads. A transition of the
row reads it, checks the table of legal transitions and then writes the row by its identifier,
whatever has become of it in between. Objects are put and deleted outside of any transaction.
-/

namespace DContact.Governance

open Lib

inductive Cg5ExportDataset where
  | decisionTrace
  | auditLog
  | restrictionConsent
  | exceptionApproval
  deriving DecidableEq

inductive Cg5EvidenceLevel where
  | summary
  | evidence

inductive Cg5ExportState where
  | queued
  | running
  | ready
  | failed
  | expired
  | revoked
  deriving DecidableEq

/-- The table `allowed`. -/
def Cg5ExportState.allows (state target : Cg5ExportState) : Bool :=
  match state with
  | .queued => target ∈ [.running, .revoked]
  | .running => target ∈ [.ready, .failed, .revoked]
  | .ready => target ∈ [.expired, .revoked]
  | .failed | .expired | .revoked => false

structure Cg5ExportRequest where
  tenantId : String
  exportId : String
  datasets : List Cg5ExportDataset
  rangeFrom : Instant
  rangeTo : Instant
  evidenceLevel : Cg5EvidenceLevel
  requestedByRef : String

/-- The columns that transitions write. -/
structure Cg5ExportJob where
  state : Cg5ExportState
  version : Nat
  storagePrefix : Option String
  manifestDigest : Option String
  rowCounts : Option (List (Cg5ExportDataset × Nat))
  expiresAt : Option Instant
  updatedAt : Instant
  deriving DecidableEq

structure Cg5ExportManifest where
  request : Cg5ExportRequest
  rowCounts : List (Cg5ExportDataset × Nat)
  fileDigests : List (Cg5ExportDataset × String)
  requestedByRef : String
  generatedAt : Instant

/-- The functions of the surroundings. -/
structure Cg5ExportHost where
  request : Cg5ExportRequest
  /-- SHA-256 of a body. -/
  digest : String → String
  /-- `cg4RefDigest`. -/
  refDigest : String → String
  /-- `JSON.stringify` of the manifest with its versions and the tenant's watermark. -/
  manifestText : Cg5ExportManifest → String

def Cg5ExportHost.prefixOf (host : Cg5ExportHost) : String :=
  "governance-exports/" ++ host.request.tenantId ++ "/" ++ host.request.exportId

def manifestRequester (host : Cg5ExportHost) : String :=
  match host.request.evidenceLevel with
  | .evidence => host.request.requestedByRef
  | .summary => "redacted:" ++ host.refDigest host.request.requestedByRef

inductive Cg5ObjectName where
  | file (dataset : Cg5ExportDataset)
  | manifest
  deriving DecidableEq

/-- The key `prefix/dataset.json` or `prefix/manifest.json`. -/
structure Cg5ObjectKey where
  storagePrefix : String
  name : Cg5ObjectName
  deriving DecidableEq

structure Cg5Object where
  key : Cg5ObjectKey
  body : String

def storedObject (objects : List Cg5Object) (key : Cg5ObjectKey) : Option Cg5Object :=
  Table.lookup Cg5Object.key key objects

/-- `objectKeys`. -/
def objectKeys (host : Cg5ExportHost) (job : Cg5ExportJob) : List Cg5ObjectKey :=
  match job.storagePrefix with
  | none => []
  | some storagePrefix =>
      host.request.datasets.map (fun dataset => ⟨storagePrefix, .file dataset⟩) ++
        [⟨storagePrefix, .manifest⟩]

def Cg5ExportHost.fileKey (host : Cg5ExportHost) (dataset : Cg5ExportDataset) : Cg5ObjectKey :=
  ⟨host.prefixOf, .file dataset⟩

def Cg5ExportHost.manifestKey (host : Cg5ExportHost) : Cg5ObjectKey := ⟨host.prefixOf, .manifest⟩

structure Cg5ExportFile where
  dataset : Cg5ExportDataset
  body : String
  rowCount : Nat
  deriving DecidableEq

/-- What a worker has put so far. -/
structure Cg5ExportProgress where
  written : List Cg5ObjectKey
  fileDigests : List (Cg5ExportDataset × String)
  rowCounts : List (Cg5ExportDataset × Nat)
  deriving DecidableEq

/-- What a worker writes with `READY`. -/
structure Cg5ReadyDetails where
  written : List Cg5ObjectKey
  manifestDigest : String
  rowCounts : List (Cg5ExportDataset × Nat)
  expiresAt : Instant
  deriving DecidableEq

/-- What a transition is for. -/
inductive Cg5ExportPurpose where
  | start
  | finish (details : Cg5ReadyDetails)
  | fail
  | revoke (keys : List Cg5ObjectKey)
  | expire (keys : List Cg5ObjectKey)
  deriving DecidableEq

def Cg5ExportPurpose.target : Cg5ExportPurpose → Cg5ExportState
  | .start => .running
  | .finish _ => .ready
  | .fail => .failed
  | .revoke _ => .revoked
  | .expire _ => .expired

def Cg5ExportPurpose.actorRef : Cg5ExportPurpose → String
  | .start | .finish _ | .fail => "cg5-export-worker"
  | .revoke _ => "data-erasure"
  | .expire _ => "cg5-export-retention"

inductive Cg5ExportStage where
  /-- Before a transition reads the row. -/
  | deciding (purpose : Cg5ExportPurpose)
  /-- The transition has read the row and found it legal, and is to write it. -/
  | updating (purpose : Cg5ExportPurpose) (seen : Cg5ExportJob)
  /-- The worker waits for the canonical reader. -/
  | collecting
  | uploading (files : List Cg5ExportFile) (progress : Cg5ExportProgress)
  /-- Every file is put, and the manifest is not. -/
  | sealing (progress : Cg5ExportProgress)
  /-- Objects are being deleted; a worker that failed goes on to `FAILED`. -/
  | removing (keys : List Cg5ObjectKey) (failing : Bool)
  deriving DecidableEq

structure Cg5ExportAudit where
  version : Nat
  action : String
  actorRef : String

structure Cg5ExportWorld where
  job : Cg5ExportJob
  objects : List Cg5Object
  calls : List (Session Cg5ExportStage)
  audit : List Cg5ExportAudit

def Cg5ExportState.text : Cg5ExportState → String
  | .queued => "QUEUED"
  | .running => "RUNNING"
  | .ready => "READY"
  | .failed => "FAILED"
  | .expired => "EXPIRED"
  | .revoked => "REVOKED"

namespace Cg5ExportWorld

def goOn (world : Cg5ExportWorld) (call : Nat) (stage : Cg5ExportStage) : Cg5ExportWorld :=
  { world with calls := Session.replace world.calls call stage }

def stop (world : Cg5ExportWorld) (call : Nat) : Cg5ExportWorld :=
  { world with calls := Session.drop world.calls call }

def put (world : Cg5ExportWorld) (key : Cg5ObjectKey) (body : String) : Cg5ExportWorld :=
  { world with objects := Table.put Cg5Object.key world.objects ⟨key, body⟩ }

def delete (world : Cg5ExportWorld) (key : Cg5ObjectKey) : Cg5ExportWorld :=
  { world with objects := world.objects.filter fun entry => decide (entry.key ≠ key) }

/-- The update of a transition with what is written beside it. -/
def update (world : Cg5ExportWorld) (purpose : Cg5ExportPurpose) (seen : Cg5ExportJob)
    (storagePrefix : String) (now : Instant) : Cg5ExportWorld :=
  let moved : Cg5ExportJob :=
    { world.job with state := purpose.target, version := seen.version + 1, updatedAt := now }
  { world with
    job :=
      match purpose with
      | .finish details =>
          { moved with
            storagePrefix := some storagePrefix
            manifestDigest := some details.manifestDigest
            rowCounts := some details.rowCounts
            expiresAt := some details.expiresAt }
      | _ => moved
    audit := world.audit ++
      [⟨seen.version + 1, "CG5_EXPORT_" ++ purpose.target.text, purpose.actorRef⟩] }

/-- How a call goes on when its transition is refused, fails or stays unanswered. -/
def afterFailure (world : Cg5ExportWorld) (call : Nat) : Cg5ExportPurpose → Cg5ExportWorld
  | .finish details => world.goOn call (.removing details.written true)
  | .start | .fail | .revoke _ | .expire _ => world.stop call

/-- How a call goes on when its transition is committed. -/
def afterSuccess (world : Cg5ExportWorld) (call : Nat) : Cg5ExportPurpose → Cg5ExportWorld
  | .start => world.goOn call .collecting
  | .finish _ | .fail => world.stop call
  | .revoke keys | .expire keys => world.goOn call (.removing keys false)

end Cg5ExportWorld

/-- How an object operation ends; a put that fails may have stored the object. -/
inductive Cg5StorageAnswer where
  | done
  | refused
  | unanswered

inductive Cg5ExportStep where
  /-- `run` reads the job. -/
  | run (call : Nat)
  /-- `revoke` reads the job. -/
  | revoke (call : Nat)
  /-- `expireDue` finds the job. -/
  | expireDue (call : Nat) (now : Instant)
  | download (actorRef : String) (now : Instant)
  /-- A transition reads the row. -/
  | look (call : Nat)
  | commit (call : Nat) (now : Instant)
  /-- The commit takes effect, but the caller gets an error. -/
  | commitUnanswered (call : Nat) (now : Instant)
  /-- The transaction fails and is rolled back. -/
  | abort (call : Nat)
  /-- The canonical reader answers, or fails. -/
  | collect (call : Nat) (files : Option (List Cg5ExportFile))
  /-- The next file, or the manifest, is put. -/
  | put (call : Nat) (answer : Cg5StorageAnswer) (now : Instant)
  | delete (call : Nat) (deleted : Bool)
  /-- The objects are deleted as far as they were, and the call goes on. -/
  | settle (call : Nat)
  | crash (call : Nat)

/-- The initial counts: zero for every dataset. -/
def noRows (host : Cg5ExportHost) : List (Cg5ExportDataset × Nat) :=
  host.request.datasets.map fun dataset => (dataset, 0)

/-- `rowCounts[dataset] = count`. -/
def countRows (rowCounts : List (Cg5ExportDataset × Nat)) (file : Cg5ExportFile) :
    List (Cg5ExportDataset × Nat) :=
  Table.put Prod.fst rowCounts (file.dataset, file.rowCount)

def manifestOf (host : Cg5ExportHost) (progress : Cg5ExportProgress) (now : Instant) :
    Cg5ExportManifest where
  request := host.request
  rowCounts := progress.rowCounts
  fileDigests := progress.fileDigests
  requestedByRef := manifestRequester host
  generatedAt := now

/-- The datasets that were put already. -/
def Cg5ExportProgress.seen (progress : Cg5ExportProgress) : List Cg5ExportDataset :=
  progress.fileDigests.map Prod.fst

def Cg5ExportProgress.add (host : Cg5ExportHost) (progress : Cg5ExportProgress)
    (file : Cg5ExportFile) : Cg5ExportProgress where
  written := progress.written ++ [host.fileKey file.dataset]
  fileDigests := progress.fileDigests ++ [(file.dataset, host.digest file.body)]
  rowCounts := countRows progress.rowCounts file

open Cg5ExportWorld in
def exportProceed (host : Cg5ExportHost) (world : Cg5ExportWorld) (call : Nat)
    (stage : Cg5ExportStage) : Cg5ExportStep → Option Cg5ExportWorld
  | .look _ =>
      match stage with
      | .deciding purpose =>
          if world.job.state.allows purpose.target then
            some (world.goOn call (.updating purpose world.job))
          else some (world.afterFailure call purpose)
      | _ => none
  | .commit _ now =>
      match stage with
      | .updating purpose seen =>
          some ((world.update purpose seen host.prefixOf now).afterSuccess call purpose)
      | _ => none
  | .commitUnanswered _ now =>
      match stage with
      | .updating purpose seen =>
          some ((world.update purpose seen host.prefixOf now).afterFailure call purpose)
      | _ => none
  | .abort _ =>
      match stage with
      | .deciding purpose | .updating purpose _ => some (world.afterFailure call purpose)
      | _ => none
  | .collect _ files =>
      match stage, files with
      | .collecting, some files => some (world.goOn call (.uploading files ⟨[], [], noRows host⟩))
      | .collecting, none => some (world.goOn call (.removing [] true))
      | _, _ => none
  | .put _ answer now =>
      match stage with
      | .uploading [] progress => some (world.goOn call (.sealing progress))
      | .uploading (file :: rest) progress =>
          if file.dataset ∈ host.request.datasets ∧ file.dataset ∉ progress.seen then
            match answer with
            | .done =>
                some ((world.put (host.fileKey file.dataset) file.body).goOn call
                  (.uploading rest (progress.add host file)))
            | .refused => some (world.goOn call (.removing progress.written true))
            | .unanswered =>
                some ((world.put (host.fileKey file.dataset) file.body).goOn call
                  (.removing progress.written true))
          else some (world.goOn call (.removing progress.written true))
      | .sealing progress =>
          let body := host.manifestText (manifestOf host progress now)
          match answer with
          | .done =>
              some ((world.put host.manifestKey body).goOn call
                (.deciding (.finish
                  { written := progress.written ++ [host.manifestKey]
                    manifestDigest := host.digest body
                    rowCounts := progress.rowCounts
                    expiresAt := now + 86400000 })))
          | .refused => some (world.goOn call (.removing progress.written true))
          | .unanswered =>
              some ((world.put host.manifestKey body).goOn call (.removing progress.written true))
      | _ => none
  | .delete _ deleted =>
      match stage with
      | .removing (key :: rest) failing =>
          let after := if deleted then world.delete key else world
          some (after.goOn call (.removing rest failing))
      | _ => none
  | .settle _ =>
      match stage with
      | .removing [] true => some (world.goOn call (.deciding .fail))
      | .removing [] false => some (world.stop call)
      | _ => none
  | .crash _ => some (world.stop call)
  | .run _ | .revoke _ | .expireDue _ _ | .download _ _ => none

def Cg5ExportStep.call? : Cg5ExportStep → Option Nat
  | .look call | .commit call _ | .commitUnanswered call _ | .abort call | .collect call _
  | .put call _ _ | .delete call _ | .settle call | .crash call => some call
  | .run _ | .revoke _ | .expireDue _ _ | .download _ _ => none

open Cg5ExportWorld in
def exportNext (host : Cg5ExportHost) (world : Cg5ExportWorld) :
    Cg5ExportStep → Option Cg5ExportWorld
  | .run call =>
      match Session.find world.calls call with
      | some _ => none
      | none =>
          if world.job.state = .queued then some (world.goOn call (.deciding .start)) else some world
  | .revoke call =>
      match Session.find world.calls call with
      | some _ => none
      | none =>
          match world.job.state with
          | .queued | .running | .ready =>
              some (world.goOn call (.deciding (.revoke (objectKeys host world.job))))
          | .failed | .expired | .revoked =>
              some (world.goOn call (.removing (objectKeys host world.job) false))
  | .expireDue call now =>
      match Session.find world.calls call with
      | some _ => none
      | none =>
          if world.job.state = .ready ∧ world.job.expiresAt.any (fun at_ => decide (at_ ≤ now)) then
            some (world.goOn call (.deciding (.expire (objectKeys host world.job))))
          else some world
  | .download actorRef now =>
      if world.job.state = .ready ∧ world.job.expiresAt.any (fun at_ => decide (now < at_)) then
        some { world with
          audit := world.audit ++ [⟨world.job.version, "CG5_EXPORT_DOWNLOADED", actorRef⟩] }
      else some world
  | step =>
      match step.call? with
      | none => none
      | some call =>
          match Session.find world.calls call with
          | none => none
          | some stage => exportProceed host world call stage step

def Cg5ExportWorld.Fresh (world : Cg5ExportWorld) : Prop :=
  world.job.state = .queued ∧ world.job.storagePrefix = none ∧ world.objects = [] ∧
    world.calls = []

def complianceExport (host : Cg5ExportHost) : System Cg5ExportWorld Cg5ExportStep :=
  .ofNext Cg5ExportWorld.Fresh (exportNext host)

end DContact.Governance

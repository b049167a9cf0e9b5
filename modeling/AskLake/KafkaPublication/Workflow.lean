/-
# `AskLake.KafkaPublication.Workflow` — the record of a publication's stages

`execute_continuous_publication` runs four stages and writes what becomes of each into the
metrics of the runtime, in the same row as everything else:

    output      skipped if no rows were stored
    manifest
    catalog     may say itself that it was skipped
    dashboard

A stage that raises rolls the transaction back.  The record is taken along
(`rollbackPreservingWorkflow`), unless the publication has no identity: that failure is a plain
`_rollback`.

`log` is what really happened, newest first; the program does not have it.
-/
import AskLake.KafkaPublication.Identity
import AskLake.Lib.Run

namespace AskLake.KafkaPublication.Workflow

open AskLake.Lib AskLake.Python
open AskLake.KafkaPublication.Identity (PublicationHost)

/-! ## The record -/

/-- `PublicationStageStatus` -/
inductive StageStatus
  | running
  | succeeded
  | failed
  | skipped
  deriving DecidableEq, Repr

structure StageState where
  attempts : Nat
  status : StageStatus
  errorCode : Option String
  message : Option String
  deriving DecidableEq

inductive WorkflowStatus
  | partialFailure
  | completed
  | inProgress
  deriving DecidableEq, Repr

/-- `metrics["publicationWorkflow"]` -/
structure PublicationWorkflow where
  identity : Identity.PublicationIdentity
  stages : Table PublicationStage StageState
  status : WorkflowStatus

def allStages : List PublicationStage := [.output, .manifest, .catalog, .dashboard]

def StageStatus.terminal : StageStatus → Bool
  | succeeded | skipped => true
  | running | failed => false

/-- `workflow_status` -/
def workflowStatus (stages : Table PublicationStage StageState) : WorkflowStatus :=
  if allStages.any fun stage => (stages stage).any fun state => state.status == .failed then
    .partialFailure
  else if allStages.all fun stage => (stages stage).any fun state => state.status.terminal then
    .completed
  else .inProgress

/-- `ContinuousErrorStage`, as far as a publication uses it -/
inductive ErrorStage
  | materialization
  | catalog
  | dashboardPublication
  deriving DecidableEq, Repr

/-- `lastError` of the runtime contract -/
structure RuntimeError where
  stage : ErrorStage
  code : String
  message : String
  retryable : Bool
  identity : Option Identity.PublicationIdentity
  publicationStage : PublicationStage

/-- `kafka_continuous_runtimes`, as far as a publication writes it. -/
structure RuntimeRow where
  workflow : Option PublicationWorkflow
  error : Option RuntimeError
  lastError : Option String

/-! ## What happens to a stage -/

inductive StageChange
  | started
  | succeeded
  | skipped
  | failed (code message : String)
  deriving DecidableEq

def StageChange.status : StageChange → StageStatus
  | started => .running
  | succeeded => .succeeded
  | skipped => .skipped
  | failed _ _ => .failed

def StageChange.errorCode : StageChange → Option String
  | failed code _ => if code = "" then none else some code
  | _ => none

def StageChange.message : StageChange → Option String
  | failed _ message => if message = "" then none else some message
  | _ => none

structure StageEvent where
  identity : Identity.PublicationIdentity
  stage : PublicationStage
  change : StageChange
  deriving DecidableEq

def StageEvent.key (event : StageEvent) : String := event.identity.idempotencyKey

/-- The row in the session, the row in the database, and what happened. -/
structure StagedRuntime where
  runtime : RuntimeRow
  committed : RuntimeRow
  log : List StageEvent

/-! ## Writing the record -/

/-- `_record_stage` -/
def recordStage (runtime : RuntimeRow) (event : StageEvent) : RuntimeRow :=
  let previous := runtime.workflow.filter fun workflow =>
    workflow.identity.idempotencyKey = event.key
  let stages : Table PublicationStage StageState :=
    previous.elim (fun _ => none) PublicationWorkflow.stages
  let attempts := ((stages event.stage).elim 0 StageState.attempts) +
    if event.change.status = .running then 1 else 0
  let stages := Table.put stages event.stage
    { attempts
      status := event.change.status
      errorCode := event.change.errorCode
      message := event.change.message }
  { runtime with
    workflow := some
      { identity := event.identity
        stages
        status := workflowStatus stages } }

namespace StagedRuntime

def start : StagedRuntime := ⟨⟨none, none, none⟩, ⟨none, none, none⟩, []⟩

def record (s : StagedRuntime) (event : StageEvent) : StagedRuntime :=
  { s with runtime := recordStage s.runtime event, log := event :: s.log }

def commit (s : StagedRuntime) : StagedRuntime := { s with committed := s.runtime }

/-- `_rollback` -/
def rollback (s : StagedRuntime) : StagedRuntime := { s with runtime := s.committed }

/-- `_rollback_preserving_workflow` -/
def rollbackPreservingWorkflow (s : StagedRuntime) : StagedRuntime :=
  match s.runtime.workflow with
  | none => s.rollback
  | some workflow => { s with runtime := { s.committed with workflow := some workflow } }

end StagedRuntime

def errorStage : PublicationStage → ErrorStage
  | .output | .manifest => .materialization
  | .catalog => .catalog
  | .dashboard => .dashboardPublication

def retryPrefix : PublicationStage → String
  | .dashboard => "Dashboard revision pending retry:"
  | _ => "Catalog materialization pending retry:"

/-- `_record_stage_failure` -/
def StagedRuntime.recordStageFailure (s : StagedRuntime) (identity : Identity.PublicationIdentity)
    (stage : PublicationStage) (code message : String) : StagedRuntime :=
  let s := s.record ⟨identity, stage, .failed code message⟩
  { s with
    runtime.error := some
      { stage := errorStage stage
        code
        message
        retryable := true
        identity := some identity
        publicationStage := stage }
    runtime.lastError := some (retryPrefix stage ++ " " ++ message) }

/-- `_record_unidentified_failure` -/
def StagedRuntime.recordUnidentifiedFailure (s : StagedRuntime) (message : String) :
    StagedRuntime :=
  { s with
    runtime.error := some
      { stage := .materialization
        code := "publication_identity_invalid"
        message
        retryable := false
        identity := none
        publicationStage := .output }
    runtime.lastError := some ("Catalog materialization pending retry: " ++ message) }

/-- `_clear_publication_error` -/
def StagedRuntime.clearPublicationError (s : StagedRuntime) : StagedRuntime :=
  let pending := (s.runtime.lastError.getD "").toList
  if "Catalog materialization pending retry:".toList.isPrefixOf pending ∨
      "Dashboard revision pending retry:".toList.isPrefixOf pending then
    { s with runtime.error := none, runtime.lastError := none }
  else s

/-! ## The stages -/

/-- What a hook does: it may commit, and it returns or raises. -/
structure HookAnswer (α : Type) where
  commits : Bool
  result : Except Error α

/-- `ContinuousPublicationHooks`, as one call meets them. -/
structure PublicationHooks where
  prepare : HookAnswer Unit
  verifyOutput : HookAnswer Unit
  verifyManifest : HookAnswer Unit
  /-- `catalog_skipped` -/
  registerCatalog : HookAnswer Bool
  publishDashboard : HookAnswer Unit
  updateJobStats : HookAnswer Unit
  compactError : Error → String

namespace StagedRuntime

def afterHook {α : Type} (s : StagedRuntime) (hook : HookAnswer α) : StagedRuntime :=
  if hook.commits then s.commit else s

/-- A stage around its hook; `finished` is what becomes of it if the hook returns. -/
def runStage {α : Type} (s : StagedRuntime) (identity : Identity.PublicationIdentity)
    (stage : PublicationStage) (code : String) (compactError : Error → String)
    (hook : HookAnswer α) (finished : α → StageChange) : StagedRuntime × Bool :=
  let s := (s.record ⟨identity, stage, .started⟩).afterHook hook
  match hook.result with
  | .ok a => (s.record ⟨identity, stage, finished a⟩, true)
  | .error e =>
      (s.rollbackPreservingWorkflow.recordStageFailure identity stage code (compactError e), false)

/-- `_verify_output_stage` -/
def verifyOutputStage (s : StagedRuntime) (identity : Identity.PublicationIdentity)
    (storedCount : Nat) (hooks : PublicationHooks) : StagedRuntime × Bool :=
  if storedCount = 0 then (s.record ⟨identity, .output, .skipped⟩, true)
  else s.runStage identity .output "publication_output_unverified" hooks.compactError
    hooks.verifyOutput fun _ => .succeeded

/-- `_verify_manifest_stage` -/
def verifyManifestStage (s : StagedRuntime) (identity : Identity.PublicationIdentity)
    (hooks : PublicationHooks) : StagedRuntime × Bool :=
  s.runStage identity .manifest "publication_manifest_unavailable" hooks.compactError
    hooks.verifyManifest fun _ => .succeeded

/-- `_register_catalog_stage` -/
def registerCatalogStage (s : StagedRuntime) (identity : Identity.PublicationIdentity)
    (hooks : PublicationHooks) : StagedRuntime × Bool :=
  s.runStage identity .catalog "catalog_publication_pending" hooks.compactError
    hooks.registerCatalog fun skipped => if skipped then .skipped else .succeeded

/-- `_publish_dashboard_stage` -/
def publishDashboardStage (s : StagedRuntime) (identity : Identity.PublicationIdentity)
    (hooks : PublicationHooks) : StagedRuntime × Bool :=
  s.runStage identity .dashboard "dashboard_publication_pending" hooks.compactError
    hooks.publishDashboard fun _ => .succeeded

/-- The stages one after the other, as long as none fails. -/
def thenStage (before : StagedRuntime × Bool) (stage : StagedRuntime → StagedRuntime × Bool) :
    StagedRuntime × Bool :=
  if before.2 then stage before.1 else before

/-- `execute_continuous_publication` of a publication that has an identity -/
def executeStages (s : StagedRuntime) (identity : Identity.PublicationIdentity) (storedCount : Nat)
    (hooks : PublicationHooks) : StagedRuntime × Except Error Bool :=
  let s := s.afterHook hooks.prepare
  match hooks.prepare.result with
  | .error e =>
      (s.rollbackPreservingWorkflow.recordStageFailure identity .output
        "publication_input_invalid" (hooks.compactError e), .ok false)
  | .ok _ =>
      let staged := thenStage (thenStage (thenStage
        (s.verifyOutputStage identity storedCount hooks)
        fun s => s.verifyManifestStage identity hooks)
        fun s => s.registerCatalogStage identity hooks)
        fun s => s.publishDashboardStage identity hooks
      if staged.2 then
        let s := staged.1.afterHook hooks.updateJobStats
        match hooks.updateJobStats.result with
        | .error e => (s, .error e)
        | .ok _ => (s.clearPublicationError, .ok true)
      else (staged.1, .ok false)

/-- `_nonnegative_int(publication.get("storedCount"), 0)`, which the identity has read before -/
def storedCount (host : PublicationHost) (publication : Value) : Nat :=
  match Identity.optionalInt host (publication.get "storedCount") with
  | .ok stored => (stored.getD 0).toNat
  | .error _ => 0

/-- `execute_continuous_publication` -/
def executeContinuousPublication (host : PublicationHost) (jobId : String) (s : StagedRuntime)
    (publication : Value) (hooks : PublicationHooks) : StagedRuntime × Except Error Bool :=
  match Identity.buildPublicationIdentity host jobId publication with
  | .error e => (s.rollback.recordUnidentifiedFailure (hooks.compactError e), .ok false)
  | .ok identity => s.executeStages identity (storedCount host publication) hooks

end StagedRuntime

end AskLake.KafkaPublication.Workflow

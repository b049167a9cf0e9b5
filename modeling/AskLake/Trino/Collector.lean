/-
# `AskLake.Trino.Collector` — the pages of a query, page by page

A collector goes along the next URIs of a query.  What it does with one page takes a
dozen steps, and anything may happen between two of them:

    top         nothing to do, or renew the lease
    starting    save the time, if the run has none
    fetching    wait for the page: renew and save what is seen of the progress
    fetched     renew the lease
    applying    the page's status and columns
    checking    is a page of this URI stored already?
    counting    how many pages are there, and is this one to be stored?
    writing     the object, under the count and the generation
    inserting   the page's row, while the run is locked and the lease is good
    discarding  the object, if its page was not inserted
    manifest    count the pages, and then their rows
    saving      the payload, with the next URI
    saved       read the payload again, and go on at the top

A call of the repository reads the run's row, and commits in a later step (`committing`).
The URI of the next page is that of the payload which is read again; the response that
goes on is the collector's own.
-/
import AskLake.Lib.Table
import AskLake.Trino.RunRow
import Mathlib.Algebra.GroupWithZero.Nat

namespace AskLake.Trino

open AskLake.Lib AskLake.Python

/-! ## Pages of a query -/

/-- `(page.state or "").upper()`, as `trino_status` tells it apart. -/
inductive QueryState
  /-- `FINISHED` -/
  | finished
  /-- `CANCELED` or `CANCELLED` -/
  | canceled
  /-- `QUEUED`, `PLANNING` or `STARTING` -/
  | waiting
  | other
  deriving DecidableEq

/-- `TrinoClientPage`; `ρ` is a row. -/
structure TrinoClientPage (ρ : Type) where
  columns : List String := []
  rows : List ρ
  error : Option String := none
  nextUri : Option Text
  state : QueryState
  deriving DecidableEq

/-- `trino_status` -/
def TrinoClientPage.trinoStatus {ρ : Type} (page : TrinoClientPage ρ) : RunStatus :=
  if page.error.isSome then .failed
  else if page.state = .finished && page.nextUri.isNone then .succeeded
  else match page.state with
    | .canceled => .cancelled
    | .waiting => .queued
    | .finished | .other => .running

/-! ## Responses -/

namespace RunResponse

/-- `response.result or TrinoQueryRunResult()` -/
def resultOrNew (response : RunResponse) : RunResult := response.result.getD {}

/-- The rows that a response counts. -/
def rowCount (response : RunResponse) : Option Nat := response.result.bind RunResult.rowCount

/-- `with_result_collection_timing` -/
def withResultCollectionTiming (response : RunResponse) (now : Int) : RunResponse :=
  { response with result := some { response.resultOrNew with
      collectionStartedAt := some (response.resultOrNew.collectionStartedAt.getD now) } }

/-- `apply_trino_page` -/
def applyTrinoPage {ρ : Type} (response : RunResponse) (page : TrinoClientPage ρ) : RunResponse :=
  { response with
    error := page.error
    result := some (if page.columns = [] then response.resultOrNew
      else { response.resultOrNew with columns := page.columns })
    status := page.trinoStatus }

/-- `apply_trino_query_info`, of the output rows. -/
def applyQueryInfo (response : RunResponse) (outputRows : Option Nat) : RunResponse :=
  { response with outputRows := match response.outputRows, outputRows with
      | some current, some incoming => some (max current incoming)
      | current, incoming => current.or incoming }

/-- `build_result_manifest`, from the pages and rows that were counted. -/
def withManifest (response : RunResponse) (columns : List String) (hasNext : Bool)
    (pageCount rowCount : Nat) (now : Int) : RunResponse :=
  let timed := response.withResultCollectionTiming now
  { timed with result := some { timed.resultOrNew with
      availablePageCount := some pageCount
      collectedRowCount := some rowCount
      columns := if columns = [] then timed.resultOrNew.columns else columns
      expectedRowCount := response.outputRows
      pageCount := some pageCount
      rowCount := some rowCount
      storage := some "s3"
      storageStatus := some
        (if response.status = .succeeded && !hasNext then "available" else "collecting") } }

/-- `finalize_storage` -/
def finalizeStorage (response : RunResponse) : RunResponse :=
  match response.status, response.result with
  | .succeeded, some result =>
      { response with result := some { result with
          collectedRowCount := result.rowCount
          expectedRowCount := result.expectedRowCount.or response.outputRows
          storageStatus := some "available" } }
  | _, _ => response

/-- `persistence_failed` -/
def persistenceFailed (response : RunResponse) (now : Int) : RunResponse :=
  { response with
    error := some "Query result persistence failed"
    result := some { (response.withResultCollectionTiming now).resultOrNew with
      storageStatus := some "unavailable" }
    status := .failed }

/-- `TrinoQueryRunStore.response_payload` -/
def payload (response : RunResponse) (trinoNextUri : Option Text) : RunPayload where
  toRunResponse := { response with engine := "trino" }
  trinoNextUri := trinoNextUri.map Text.text

end RunResponse

/-! ## What is stored -/

/-- `page_object_key`: the page's index, and the generation that wrote it. -/
structure ObjectKey where
  pageIndex : Nat
  attempt : Option Nat
  deriving DecidableEq

/-- `SqlRunResultPageModel` -/
structure ResultPage where
  pageIndex : Nat
  columns : List String
  objectKey : ObjectKey
  rowCount : Nat
  sourceNextUri : Option Text
  deriving DecidableEq

/-- The run's row, the rows of its pages, and their objects. -/
structure RunStore (ρ : Type) where
  row : RunRow
  pages : List ResultPage := []
  objects : Table ObjectKey (List String × List ρ) := fun _ => none

namespace RunStore

variable {ρ : Type}

/-- `total_result_rows` -/
def totalResultRows (s : RunStore ρ) : Nat := (s.pages.map ResultPage.rowCount).sum

/-- `get_result_page_by_source_uri` finds one. -/
def hasSource (s : RunStore ρ) (uri : Text) : Bool :=
  s.pages.any fun page => page.sourceNextUri = some uri

def writeObject (s : RunStore ρ) (key : ObjectKey) (columns : List String) (rows : List ρ) :
    RunStore ρ :=
  { s with objects := s.objects.put key (columns, rows) }

def deleteObject (s : RunStore ρ) (key : ObjectKey) : RunStore ρ :=
  { s with objects := Function.update s.objects key none }

end RunStore

/-- The lease is the worker's, and has not run out. -/
def RunRow.leasedBy (row : RunRow) (workerId : String) (generation : Nat) (now : Int) : Bool :=
  row.ownedBy workerId generation && row.collectorLeaseExpiresAt.any (now < ·)

/-! ## Collectors -/

/-- Where a collector stands. -/
inductive Stage (ρ : Type)
  | loading
  | top (response : RunResponse) (payload : RunPayload)
  | starting (response : RunResponse) (uri : Text)
  | fetching (response : RunResponse) (uri : Text)
  | fetched (response : RunResponse) (uri : Text) (page : TrinoClientPage ρ)
  | applying (response : RunResponse) (uri : Text) (page : TrinoClientPage ρ)
  | checking (updated : RunResponse) (uri : Text) (page : TrinoClientPage ρ)
  | counting (updated : RunResponse) (uri : Text) (page : TrinoClientPage ρ)
  | writing (updated : RunResponse) (uri : Text) (page : TrinoClientPage ρ) (pageCount : Nat)
  | inserting (updated : RunResponse) (uri : Text) (page : TrinoClientPage ρ) (pageCount : Nat)
  | discarding (updated : RunResponse) (uri : Text) (page : TrinoClientPage ρ) (pageCount : Nat)
      (fenced : Bool)
  | manifest (updated : RunResponse) (uri : Text) (page : TrinoClientPage ρ)
      (columns : List String)
  | totalling (updated : RunResponse) (uri : Text) (page : TrinoClientPage ρ)
      (columns : List String) (pageCount : Nat)
  | saving (updated : RunResponse) (nextUri : Option Text)
  | saved (updated : RunResponse)
  | releasing
  | retrying
  | committing (write : CollectorWrite) (read : RunRow) (next : Stage ρ)
  | done
  deriving DecidableEq

/-- A collector at work on a run that it has claimed. -/
structure Collector (ρ : Type) where
  workerId : String
  generation : Nat
  pagesCollected : Nat := 0
  stage : Stage ρ := .loading
  deriving DecidableEq

structure CollectorSettings where
  leaseSeconds : Int
  pagesPerLease : Nat
  deriving DecidableEq

/-- What a collector meets in one step. -/
inductive StepInput
  | proceed (now : Int)
  /-- the lease is refreshed while the page is waited for -/
  | refresh (now : Int)
  /-- the query's info, as it is sampled -/
  | observe (outputRows : Option Nat) (now : Int)
  /-- what is called fails: the fetch, the object store -/
  | fail (now : Int)
  deriving DecidableEq

namespace StepInput

def now : StepInput → Int
  | proceed now | refresh now | observe _ now | fail now => now

def fails : StepInput → Bool
  | fail _ => true
  | proceed _ | refresh _ | observe .. => false

end StepInput

section
variable {ρ : Type} (settings : CollectorSettings) (fetch : Text → TrinoClientPage ρ)
  (s : RunStore ρ) (worker : Collector ρ) (input : StepInput)

/-- A call of the repository reads the row; where its fence holds, it commits later. -/
def Collector.call (write : CollectorWrite) (next otherwise : Stage ρ) : Stage ρ :=
  if (RowCall.collect worker.workerId worker.generation write).admits s.row then
    .committing write s.row next
  else otherwise

/-- `_renew_lease` -/
def Collector.renew (next : Stage ρ) : Stage ρ :=
  worker.call s (.renew settings.leaseSeconds input.now) next .done

/-- `save_collector` -/
def Collector.save (response : RunResponse) (nextUri : Option Text) (next : Stage ρ) : Stage ρ :=
  worker.call s (.save (response.payload nextUri)) next .done

/-- The columns of a page that is stored. -/
def storedColumns (updated : RunResponse) (page : TrinoClientPage ρ) : List String :=
  if page.columns = [] then updated.resultOrNew.columns else page.columns

/-- The page that a collector inserts. -/
def Collector.page (updated : RunResponse) (uri : Text) (page : TrinoClientPage ρ)
    (pageCount : Nat) : ResultPage where
  pageIndex := pageCount
  columns := storedColumns updated page
  objectKey := ⟨pageCount, some worker.generation⟩
  rowCount := page.rows.length
  sourceNextUri := some uri

/-- `save_result_page_metadata_if_owned` -/
def Collector.insert (updated : RunResponse) (uri : Text) (page : TrinoClientPage ρ)
    (pageCount : Nat) : RunStore ρ × Stage ρ :=
  if !s.row.leasedBy worker.workerId worker.generation input.now then
    (s, .discarding updated uri page pageCount true)
  else if s.hasSource uri || s.pages.any (·.pageIndex = pageCount) then
    (s, .discarding updated uri page pageCount false)
  else
    ({ s with pages := s.pages ++ [worker.page updated uri page pageCount] },
      .manifest updated uri page (storedColumns updated page))

/-- One step of `collect_claimed_run`. -/
def Collector.advance : RunStore ρ × Stage ρ :=
  match worker.stage with
  | .loading =>
      (s, if s.row.payload.engine ≠ "trino" then .retrying
        else .top s.row.payload.toRunResponse s.row.payload)
  | .top response payload =>
      (s, if response.status.terminal then .releasing
        else match optionalString payload.trinoNextUri with
          | none => .releasing
          | some uri => worker.renew settings s input (.starting response uri))
  | .starting response uri =>
      (s, if (response.result.bind RunResult.collectionStartedAt).isSome then
          .fetching response uri
        else
          let timed := response.withResultCollectionTiming input.now
          worker.save s timed (some uri) (.fetching timed uri))
  | .fetching response uri =>
      (s, match input with
        | .proceed _ => .fetched response uri (fetch uri)
        | .refresh _ => worker.renew settings s input (.fetching response uri)
        | .observe outputRows _ =>
            let sampled := response.applyQueryInfo outputRows
            worker.save s sampled (some uri) (.fetching sampled uri)
        | .fail _ => .retrying)
  | .fetched response uri page =>
      (s, worker.renew settings s input (.applying response uri page))
  | .applying response uri page =>
      let updated := response.applyTrinoPage page
      (s, match input with
        | .observe outputRows _ =>
            if page.state = .finished && updated.outputRows.isNone then
              .checking (updated.applyQueryInfo outputRows) uri page
            else .checking updated uri page
        | _ => .checking updated uri page)
  | .checking updated uri page =>
      let timed := updated.withResultCollectionTiming input.now
      (s, if s.hasSource uri then .manifest timed uri page page.columns
        else .counting timed uri page)
  | .counting updated uri page =>
      (s, if page.rows.isEmpty && (updated.status ≠ .succeeded || 0 < s.pages.length) then
          .saving updated.finalizeStorage page.nextUri
        else .writing updated uri page s.pages.length)
  | .writing updated uri page pageCount =>
      if input.fails then
        (s.deleteObject ⟨pageCount, some worker.generation⟩,
          .saving (updated.persistenceFailed input.now) page.nextUri)
      else
        (s.writeObject ⟨pageCount, some worker.generation⟩ (storedColumns updated page) page.rows,
          .inserting updated uri page pageCount)
  | .inserting updated uri page pageCount => worker.insert s input updated uri page pageCount
  | .discarding updated uri page pageCount fenced =>
      (if input.fails then s else s.deleteObject ⟨pageCount, some worker.generation⟩,
        if fenced then .done else .manifest updated uri page (storedColumns updated page))
  | .manifest updated uri page columns => (s, .totalling updated uri page columns s.pages.length)
  | .totalling updated _ page columns pageCount =>
      (s, .saving (updated.withManifest columns page.nextUri.isSome pageCount s.totalResultRows
        input.now).finalizeStorage page.nextUri)
  | .saving updated nextUri => (s, worker.save s updated nextUri (.saved updated))
  | .saved updated =>
      (s, if updated.status.terminal then .done
        else if s.row.payload.engine ≠ "trino" then .retrying
        else if settings.pagesPerLease ≤ worker.pagesCollected + 1 then .releasing
        else .top updated s.row.payload)
  | .releasing => (s, worker.call s .release .done .done)
  | .retrying => (s, worker.call s (.retry input.now) .done .done)
  | .committing write read next => ({ s with row := write.commit read s.row }, next)
  | .done => (s, .done)

/-- The pages that a collector has gone through since its claim. -/
def Collector.collected : Nat :=
  match worker.stage with
  | .saved _ => worker.pagesCollected + 1
  | _ => worker.pagesCollected

end

/-! ## The system -/

/-- The store and the collectors, in the order of their claims. -/
structure Collection (ρ : Type) extends RunStore ρ where
  collectors : List (Collector ρ) := []

inductive CollectionEvent
  | claim (workerId : String) (now : Int)
  | act (k : Nat) (input : StepInput)
  | crash (k : Nat)
  deriving DecidableEq

namespace Collection

variable {ρ : Type} (settings : CollectorSettings) (fetch : Text → TrinoClientPage ρ)

/-- A collector's step. -/
def act (s : Collection ρ) (k : Nat) (worker : Collector ρ) (input : StepInput) :
    Collection ρ where
  toRunStore := (worker.advance settings fetch s.toRunStore input).1
  collectors := s.collectors.set k { worker with
    pagesCollected := worker.collected
    stage := (worker.advance settings fetch s.toRunStore input).2 }

def step (s : Collection ρ) : CollectionEvent → Collection ρ
  | .claim workerId now =>
      match s.row.claim workerId settings.leaseSeconds now with
      | none => s
      | some row =>
          { s with
            row
            collectors := s.collectors ++
              [{ workerId, generation := row.collectorGeneration }] }
  | .act k input => (s.collectors[k]?).elim s fun worker => s.act settings fetch k worker input
  | .crash k => { s with collectors := s.collectors.modify k fun worker =>
      { worker with stage := .done } }

end Collection

/-! ## The submission -/

section
variable {ρ : Type} (baseDatasetId query : String) (first : TrinoClientPage ρ) (now : Int)

/-- `build_run_response` -/
def buildRunResponse : RunResponse where
  baseDatasetId
  query
  status := first.trinoStatus
  error := first.error
  result := some {
    collectionStartedAt := some now
    columns := first.columns
    storageStatus := some "collecting" }

/-- The first page, as `store_page` stores it without a URI. -/
def firstPage : ResultPage where
  pageIndex := 0
  columns := storedColumns (buildRunResponse baseDatasetId query first now) first
  objectKey := ⟨0, none⟩
  rowCount := first.rows.length
  sourceNextUri := none

/-- The response that `submit` saves. -/
def submittedResponse : RunResponse :=
  let response := buildRunResponse baseDatasetId query first now
  (if first.rows.isEmpty && response.status ≠ .succeeded then response
  else response.withManifest (storedColumns response first) first.nextUri.isSome 1
    first.rows.length now).finalizeStorage

/-- What `submit` leaves of a run whose first page has been stored. -/
def submitted : Collection ρ where
  row := {
    payload := (submittedResponse baseDatasetId query first now).payload first.nextUri
    datasetId := baseDatasetId
    query
    collectorNextUri := first.nextUri }
  pages :=
    if first.rows.isEmpty && first.trinoStatus ≠ .succeeded then []
    else [firstPage baseDatasetId query first now]
  objects :=
    if first.rows.isEmpty && first.trinoStatus ≠ .succeeded then fun _ => none
    else Table.put (fun _ => none) ⟨0, none⟩
      ((firstPage baseDatasetId query first now).columns, first.rows)

end

end AskLake.Trino

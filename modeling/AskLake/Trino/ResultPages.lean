/-
# `AskLake.Trino.ResultPages` — every page once, and the count of their rows

Any number of collectors, each with a generation of its own, go along the next URIs of one
query, at any pace; the row of the run is written by whoever commits last.  Three things
hold whatever they do:

    only the collector of the current generation adds a page
    the pages that are stored are the first ones of the chain, each once
    a run has succeeded only if all of them are stored

The count of the rows is another matter.  A collector reads the payload again when it has
saved it, for its next URI, and goes on with the response that it has: a payload that
another one has saved in between may be further on and count more rows.  The count is right
in the runs in which no collector reads more than it has counted.
-/
import AskLake.Lib.Run
import AskLake.Trino.PageChain

namespace AskLake.Trino

open AskLake.Lib AskLake.Python

/-! ## What is kept -/

/-- The rows that a response counts, none if it has not counted yet. -/
def RunResponse.counted (response : RunResponse) : Nat := response.rowCount.getD 0

/-- The row has another collector by now, or none. -/
def RunRow.overtakes (row : RunRow) (generation : Nat) : Prop :=
  row.collectorOwner = none ∨ generation < row.collectorGeneration

section
variable {ρ : Type} (fetch : Text → TrinoClientPage ρ) (first : TrinoClientPage ρ) (counts : Bool)
  (s : RunStore ρ)

/-- A place in the chain where a collector may go on: what comes before it is stored, and
counted. -/
def Reached (counted : Nat) (uri : Text) : Prop :=
  ∃ i, First (nextPage fetch) first.nextUri i uri ∧ StoredBefore fetch first s i ∧
    (counts = true → rowsBefore fetch first i ≤ counted)

/-- A payload that may be the run's. -/
structure PayloadOk (payload : RunPayload) : Prop where
  engine : payload.engine = "trino"
  counted : payload.counted ≤ s.totalResultRows
  goesOn : payload.status.terminal = false → ∀ uri,
    optionalString payload.trinoNextUri = some uri →
    Reached fetch first counts s payload.counted uri
  succeeded : payload.status = .succeeded → Complete fetch first s ∧
    (counts = true → payload.rowCount = some s.totalResultRows)

/-- A response with which a collector is on its way to a page. -/
structure Going (response : RunResponse) (uri : Text) : Prop where
  active : response.status.terminal = false
  counted : response.counted ≤ s.totalResultRows
  reached : Reached fetch first counts s response.counted uri

/-- A response that has the page's status, before its rows are counted. -/
structure Applied (updated : RunResponse) (uri : Text) : Prop where
  status : updated.status = (fetch uri).trinoStatus
  counted : updated.counted ≤ s.totalResultRows
  reached : Reached fetch first counts s updated.counted uri

/-- No stored page has the object that a collector may write. -/
def KeyFree (generation pageCount : Nat) : Prop :=
  ∀ page ∈ s.pages, page.objectKey ≠ ⟨pageCount, some generation⟩

/-- A page that is to be stored as it was counted. -/
structure ToInsert (updated : RunResponse) (uri : Text) (pageCount : Nat) : Prop
    extends Applied fetch first counts s updated uri where
  index : pageCount = s.pages.length
  storable : (fetch uri).rows ≠ [] ∨ updated.status = .succeeded ∧ pageCount = 0

/-- What holds of a collector of the generation at each of its stages. -/
def StageOk (generation : Nat) : Stage ρ → Prop
  | .loading | .releasing | .retrying | .done => True
  | .top response payload => s.row.overtakes generation ∨
      response.counted ≤ s.totalResultRows ∧ (response.status.terminal = false → ∀ uri,
        optionalString payload.trinoNextUri = some uri →
        Reached fetch first counts s response.counted uri)
  | .starting response uri | .fetching response uri =>
      s.row.overtakes generation ∨ Going fetch first counts s response uri
  | .fetched response uri page | .applying response uri page =>
      page = fetch uri ∧ (s.row.overtakes generation ∨ Going fetch first counts s response uri)
  | .checking updated uri page =>
      page = fetch uri ∧ (s.row.overtakes generation ∨ Applied fetch first counts s updated uri)
  | .counting updated uri page =>
      page = fetch uri ∧ (s.row.overtakes generation ∨
        Applied fetch first counts s updated uri ∧ s.hasSource uri = false)
  | .writing updated uri page pageCount =>
      page = fetch uri ∧ KeyFree s generation pageCount ∧ (s.row.overtakes generation ∨
        ToInsert fetch first counts s updated uri pageCount)
  | .inserting updated uri page pageCount =>
      page = fetch uri ∧ KeyFree s generation pageCount ∧ (s.row.overtakes generation ∨
        ToInsert fetch first counts s updated uri pageCount ∧
        s.objects ⟨pageCount, some generation⟩ = some (storedColumns updated page, page.rows))
  | .discarding updated uri page pageCount fenced =>
      page = fetch uri ∧ KeyFree s generation pageCount ∧ (fenced = true ∨
        s.row.overtakes generation ∨
        Applied fetch first counts s updated uri ∧ s.hasSource uri = true)
  | .manifest updated uri page _ | .totalling updated uri page _ _ =>
      page = fetch uri ∧ (s.row.overtakes generation ∨
        Applied fetch first counts s updated uri ∧ s.hasSource uri = true)
  | .saving updated nextUri =>
      s.row.overtakes generation ∨ PayloadOk fetch first counts s (updated.payload nextUri)
  | .saved updated => s.row.overtakes generation ∨ updated.counted ≤ s.totalResultRows
  | .committing write _ next =>
      (∀ payload, write = .save payload → PayloadOk fetch first counts s payload) ∧
        StageOk generation next

/-- The invariant of a collection; `counts` is whether the counts are right. -/
structure Collected (s : Collection ρ) : Prop where
  indexes : s.pages.map ResultPage.pageIndex = List.range s.pages.length
  sources : (s.pages.map ResultPage.sourceNextUri).Nodup
  shape : InOrder fetch first s.toRunStore ∨ LoneEmpty fetch first s.toRunStore
  keys : ∀ page ∈ s.pages, page.objectKey.pageIndex = page.pageIndex
  payload : PayloadOk fetch first counts s.toRunStore s.row.payload
  owner : s.row.payload.status.terminal = true → s.row.collectorOwner = none
  generations : ∀ worker ∈ s.collectors, worker.generation ≤ s.row.collectorGeneration
  distinct : (s.collectors.map Collector.generation).Pairwise (· < ·)
  stages : ∀ worker ∈ s.collectors,
    StageOk fetch first counts s.toRunStore worker.generation worker.stage

end

/-! ## Responses that count the same -/

section
variable {ρ : Type} (response : RunResponse) (now : Int)

@[simp] theorem rowCount_withResultCollectionTiming :
    (response.withResultCollectionTiming now).rowCount = response.rowCount := by
  cases h : response.result with
  | none => simp [RunResponse.rowCount, RunResponse.withResultCollectionTiming,
      RunResponse.resultOrNew, h]
  | some result => simp [RunResponse.rowCount, RunResponse.withResultCollectionTiming,
      RunResponse.resultOrNew, h]

@[simp] theorem rowCount_applyTrinoPage (page : TrinoClientPage ρ) :
    (response.applyTrinoPage page).rowCount = response.rowCount := by
  cases h : response.result with
  | none =>
      simp only [RunResponse.rowCount, RunResponse.applyTrinoPage, RunResponse.resultOrNew, h]
      split
      · rfl
      · rfl
  | some result =>
      simp only [RunResponse.rowCount, RunResponse.applyTrinoPage, RunResponse.resultOrNew, h]
      split
      · rfl
      · rfl

@[simp] theorem rowCount_applyQueryInfo (outputRows : Option Nat) :
    (response.applyQueryInfo outputRows).rowCount = response.rowCount := rfl

@[simp] theorem rowCount_finalizeStorage :
    response.finalizeStorage.rowCount = response.rowCount := by
  rw [RunResponse.finalizeStorage]
  split
  · next hresult =>
      rw [RunResponse.rowCount, RunResponse.rowCount, hresult]
      rfl
  · rfl

@[simp] theorem status_finalizeStorage : response.finalizeStorage.status = response.status := by
  rw [RunResponse.finalizeStorage]
  split
  · rfl
  · rfl

@[simp] theorem rowCount_persistenceFailed :
    (response.persistenceFailed now).rowCount = response.rowCount := by
  cases h : response.result with
  | none => simp [RunResponse.rowCount, RunResponse.persistenceFailed,
      RunResponse.withResultCollectionTiming, RunResponse.resultOrNew, h]
  | some result => simp [RunResponse.rowCount, RunResponse.persistenceFailed,
      RunResponse.withResultCollectionTiming, RunResponse.resultOrNew, h]

@[simp] theorem rowCount_withManifest (columns : List String) (hasNext : Bool)
    (pageCount rowCount : Nat) :
    (response.withManifest columns hasNext pageCount rowCount now).rowCount = some rowCount := rfl

@[simp] theorem status_withManifest (columns : List String) (hasNext : Bool)
    (pageCount rowCount : Nat) :
    (response.withManifest columns hasNext pageCount rowCount now).status = response.status := rfl

theorem counted_of_rowCount {response updated : RunResponse}
    (h : updated.rowCount = response.rowCount) : updated.counted = response.counted := by
  rw [RunResponse.counted, h, RunResponse.counted]

/-- A page after which the query has succeeded has no next one. -/
theorem nextUri_of_succeeded {page : TrinoClientPage ρ} (h : page.trinoStatus = .succeeded) :
    page.nextUri = none := by
  rw [TrinoClientPage.trinoStatus] at h
  split at h
  · exact nomatch h
  · split at h
    · next hfinished => simpa using (Bool.and_eq_true_iff.mp hfinished).2
    · split at h
      · exact nomatch h
      · exact nomatch h
      · exact nomatch h
      · exact nomatch h

/-- The next URI that is read of a saved payload. -/
theorem optionalString_payload (nextUri : Option Text) :
    optionalString (response.payload nextUri).trinoNextUri = nextUri := by
  cases nextUri with
  | none => rfl
  | some uri => exact optionalString_text uri

end

/-! ## Another store -/

section
variable {ρ : Type} {fetch : Text → TrinoClientPage ρ} {first : TrinoClientPage ρ} {counts : Bool}
  {s s' : RunStore ρ} {response : RunResponse} {payload : RunPayload} {uri : Text}
  {generation counted : Nat}

theorem StoredBefore.grow (hgrow : ∀ uri, s.hasSource uri = true → s'.hasSource uri = true)
    {n : Nat} (h : StoredBefore fetch first s n) : StoredBefore fetch first s' n :=
  fun j hj uri huri hrows => hgrow uri (h j hj uri huri hrows)

theorem Reached.grow (hgrow : ∀ uri, s.hasSource uri = true → s'.hasSource uri = true)
    (h : Reached fetch first counts s counted uri) :
    Reached fetch first counts s' counted uri := by
  obtain ⟨i, hfirst, hstored, hrows⟩ := h
  exact ⟨i, hfirst, hstored.grow hgrow, hrows⟩

theorem SamePages.grow (h : SamePages s s') (uri : Text) (hsource : s.hasSource uri = true) :
    s'.hasSource uri = true := by
  rw [h.hasSource]
  exact hsource

theorem PayloadOk.same (hok : PayloadOk fetch first counts s payload) (h : SamePages s s') :
    PayloadOk fetch first counts s' payload where
  engine := hok.engine
  counted := by
    rw [h.totalResultRows]
    exact hok.counted
  goesOn := fun hactive uri huri => (hok.goesOn hactive uri huri).grow h.grow
  succeeded := fun hstatus => by
    rw [h.totalResultRows]
    exact ⟨h.complete (hok.succeeded hstatus).1, (hok.succeeded hstatus).2⟩

theorem Going.same (hok : Going fetch first counts s response uri) (h : SamePages s s') :
    Going fetch first counts s' response uri where
  active := hok.active
  counted := by
    rw [h.totalResultRows]
    exact hok.counted
  reached := hok.reached.grow h.grow

theorem Applied.same (hok : Applied fetch first counts s response uri) (h : SamePages s s') :
    Applied fetch first counts s' response uri where
  status := hok.status
  counted := by
    rw [h.totalResultRows]
    exact hok.counted
  reached := hok.reached.grow h.grow

theorem ToInsert.same {pageCount : Nat} (hok : ToInsert fetch first counts s response uri pageCount)
    (h : SamePages s s') : ToInsert fetch first counts s' response uri pageCount where
  toApplied := hok.toApplied.same h
  index := by
    rw [h.pages]
    exact hok.index
  storable := hok.storable

/-- Another store, as a collector sees it: the same, unless the run is another's by now. -/
structure SeenBy (fetch : Text → TrinoClientPage ρ) (first : TrinoClientPage ρ) (counts : Bool)
    (generation : Nat) (s s' : RunStore ρ) : Prop where
  overtakes : s.row.overtakes generation → s'.row.overtakes generation
  payload : ∀ payload, PayloadOk fetch first counts s payload →
    PayloadOk fetch first counts s' payload
  keys : ∀ pageCount, KeyFree s generation pageCount → KeyFree s' generation pageCount
  same : s'.row.overtakes generation ∨ SamePages s s' ∧
    ∀ n, s'.objects ⟨n, some generation⟩ = s.objects ⟨n, some generation⟩

theorem SeenBy.or (h : SeenBy fetch first counts generation s s') {P P' : Prop}
    (himp : SamePages s s' →
      (∀ n, s'.objects ⟨n, some generation⟩ = s.objects ⟨n, some generation⟩) → P → P')
    (hor : s.row.overtakes generation ∨ P) : s'.row.overtakes generation ∨ P' := by
  rcases hor with hover | hp
  · exact Or.inl (h.overtakes hover)
  · rcases h.same with hover | ⟨hsame, hobjects⟩
    · exact Or.inl hover
    · exact Or.inr (himp hsame hobjects hp)

/-- A collector's stage is as good in the other store. -/
theorem SeenBy.stageOk (h : SeenBy fetch first counts generation s s') {stage : Stage ρ}
    (hok : StageOk fetch first counts s generation stage) :
    StageOk fetch first counts s' generation stage := by
  induction stage with
  | loading => trivial
  | releasing => trivial
  | retrying => trivial
  | done => trivial
  | top response payload =>
      refine h.or (fun hsame _ hp => ⟨?_, fun hactive uri huri => ?_⟩) hok
      · rw [hsame.totalResultRows]
        exact hp.1
      · exact (hp.2 hactive uri huri).grow hsame.grow
  | starting response uri => exact h.or (fun hsame _ hp => hp.same hsame) hok
  | fetching response uri => exact h.or (fun hsame _ hp => hp.same hsame) hok
  | fetched response uri page => exact ⟨hok.1, h.or (fun hsame _ hp => hp.same hsame) hok.2⟩
  | applying response uri page => exact ⟨hok.1, h.or (fun hsame _ hp => hp.same hsame) hok.2⟩
  | checking updated uri page => exact ⟨hok.1, h.or (fun hsame _ hp => hp.same hsame) hok.2⟩
  | counting updated uri page =>
      refine ⟨hok.1, h.or (fun hsame _ hp => ⟨hp.1.same hsame, ?_⟩) hok.2⟩
      rw [hsame.hasSource]
      exact hp.2
  | writing updated uri page pageCount =>
      exact ⟨hok.1, h.keys _ hok.2.1, h.or (fun hsame _ hp => hp.same hsame) hok.2.2⟩
  | inserting updated uri page pageCount =>
      refine ⟨hok.1, h.keys _ hok.2.1, h.or (fun hsame hobjects hp => ⟨hp.1.same hsame, ?_⟩) hok.2.2⟩
      rw [hobjects]
      exact hp.2
  | discarding updated uri page pageCount fenced =>
      refine ⟨hok.1, h.keys _ hok.2.1, hok.2.2.imp_right fun hrest => ?_⟩
      exact h.or (fun hsame _ hp => ⟨hp.1.same hsame, hsame.grow _ hp.2⟩) hrest
  | manifest updated uri page columns =>
      exact ⟨hok.1, h.or (fun hsame _ hp => ⟨hp.1.same hsame, hsame.grow _ hp.2⟩) hok.2⟩
  | totalling updated uri page columns pageCount =>
      exact ⟨hok.1, h.or (fun hsame _ hp => ⟨hp.1.same hsame, hsame.grow _ hp.2⟩) hok.2⟩
  | saving updated nextUri =>
      rcases hok with hover | hp
      · exact Or.inl (h.overtakes hover)
      · exact Or.inr (h.payload _ hp)
  | saved updated =>
      refine h.or (fun hsame _ hp => ?_) hok
      rw [hsame.totalResultRows]
      exact hp
  | committing write read next ih =>
      exact ⟨fun payload hsave => h.payload payload (hok.1 payload hsave), ih hok.2⟩

end

/-! ## What a step does to the store -/

section
variable {ρ : Type} {settings : CollectorSettings} {fetch : Text → TrinoClientPage ρ}
  {first : TrinoClientPage ρ} {counts : Bool} {s : RunStore ρ} {worker : Collector ρ}
  {input : StepInput}

/-- The store after a collector's step. -/
inductive StoreStep (s : RunStore ρ) (worker : Collector ρ) : RunStore ρ → Prop
  | kept : StoreStep s worker s
  | committed {write : CollectorWrite} {read : RunRow} {next : Stage ρ}
      (h : worker.stage = .committing write read next) :
      StoreStep s worker { s with row := write.commit read s.row }
  | object (pageCount : Nat) (value : Option (List String × List ρ))
      (h : ∀ {fetch first counts}, StageOk fetch first counts s worker.generation worker.stage →
        KeyFree s worker.generation pageCount) :
      StoreStep s worker { s with
        objects := Function.update s.objects ⟨pageCount, some worker.generation⟩ value }
  | inserted {updated : RunResponse} {uri : Text} {page : TrinoClientPage ρ} {pageCount : Nat}
      {now : Int} (h : worker.stage = .inserting updated uri page pageCount)
      (hleased : s.row.leasedBy worker.workerId worker.generation now = true)
      (hnew : s.hasSource uri = false) :
      StoreStep s worker (s.addPage (worker.page updated uri page pageCount))

/-- A page is inserted if the lease is good and its URI is new. -/
theorem Collector.insert_eq (updated : RunResponse) (uri : Text) (page : TrinoClientPage ρ)
    (pageCount : Nat) :
    (∃ fenced, worker.insert s input updated uri page pageCount =
      (s, .discarding updated uri page pageCount fenced) ∧
      (fenced = false → s.row.leasedBy worker.workerId worker.generation input.now = true ∧
        (s.hasSource uri = true ∨ ∃ old ∈ s.pages, old.pageIndex = pageCount))) ∨
    (worker.insert s input updated uri page pageCount =
      (s.addPage (worker.page updated uri page pageCount),
        .manifest updated uri page (storedColumns updated page)) ∧
      s.row.leasedBy worker.workerId worker.generation input.now = true ∧
      s.hasSource uri = false) := by
  rw [insert]
  split
  · exact Or.inl ⟨true, rfl, fun h => nomatch h⟩
  · next hleased =>
      have hleased' : s.row.leasedBy worker.workerId worker.generation input.now = true := by
        simpa using hleased
      split
      · next hdup =>
          refine Or.inl ⟨false, rfl, fun _ => ⟨hleased', ?_⟩⟩
          rcases Bool.or_eq_true_iff.mp hdup with hsource | hindex
          · exact Or.inl hsource
          · obtain ⟨old, hold, heq⟩ := List.any_eq_true.mp hindex
            exact Or.inr ⟨old, hold, of_decide_eq_true heq⟩
      · next hfree =>
          refine Or.inr ⟨rfl, hleased', ?_⟩
          exact (show s.hasSource uri = false ∧ ∀ old ∈ s.pages, ¬ old.pageIndex = pageCount by
            simpa using hfree).1

theorem Collector.storeStep :
    StoreStep s worker (worker.advance settings fetch s input).1 := by
  rw [advance]
  cases hstage : worker.stage with
  | writing updated uri page pageCount =>
      simp only
      split
      · exact .object pageCount none fun hok => by
          rw [hstage] at hok
          exact hok.2.1
      · exact .object pageCount (some (storedColumns updated page, page.rows)) fun hok => by
          rw [hstage] at hok
          exact hok.2.1
  | discarding updated uri page pageCount fenced =>
      simp only
      split
      · exact .kept
      · exact .object pageCount none fun hok => by
          rw [hstage] at hok
          exact hok.2.1
  | inserting updated uri page pageCount =>
      simp only
      rcases @insert_eq ρ s worker input updated uri page pageCount with
        ⟨fenced, heq, -⟩ | ⟨heq, hleased, hnew⟩
      · rw [heq]
        exact .kept
      · rw [heq]
        exact .inserted hstage hleased hnew
  | committing write read next => exact .committed hstage
  | loading => exact .kept
  | top => exact .kept
  | starting => exact .kept
  | fetching => exact .kept
  | fetched => exact .kept
  | applying => exact .kept
  | checking => exact .kept
  | counting => exact .kept
  | manifest => exact .kept
  | totalling => exact .kept
  | saving => exact .kept
  | saved => exact .kept
  | releasing => exact .kept
  | retrying => exact .kept
  | done => exact .kept

end

/-! ## The payloads that a collector saves -/

section
variable {ρ : Type} {fetch : Text → TrinoClientPage ρ} {first : TrinoClientPage ρ} {counts : Bool}
  {s : RunStore ρ} {response updated : RunResponse} {uri v : Text} {i counted : Nat}

theorem StoredBefore.succ (hfirst : First (nextPage fetch) first.nextUri i uri)
    (hstored : StoredBefore fetch first s i)
    (hpage : (fetch uri).rows = [] ∨ s.hasSource uri = true) :
    StoredBefore fetch first s (i + 1) := by
  intro j hj w hw hrows
  rcases Nat.lt_succ_iff_lt_or_eq.mp hj with hlt | rfl
  · exact hstored j hlt w hw hrows
  · obtain rfl : uri = w := Option.some.inj (hfirst.at_n.symm.trans hw)
    exact hpage.resolve_left hrows

/-- From a page that is stored, or empty, the next one is reached. -/
theorem reached_next (hfirst : First (nextPage fetch) first.nextUri i uri)
    (hstored : StoredBefore fetch first s (i + 1)) (hnext : nextPage fetch uri = some v)
    (hcounted : counts = true → rowsBefore fetch first (i + 1) ≤ counted) :
    Reached fetch first counts s counted v := by
  have hat : trail (nextPage fetch) first.nextUri (i + 1) = some v :=
    (trail_succ_of hfirst.at_n).trans hnext
  obtain ⟨m, hle, hm⟩ := exists_first hat
  exact ⟨m, hm, hstored.mono hle, fun hc => (rowsBefore_mono hle).trans (hcounted hc)⟩

/-- A payload whose rows have been counted after its page was stored. -/
theorem payloadOk_of_manifest (hshape : InOrder fetch first s ∨ LoneEmpty fetch first s)
    (happlied : Applied fetch first counts s updated uri) (hsource : s.hasSource uri = true)
    (columns : List String) (hasNext : Bool) (pageCount : Nat) (now : Int) :
    PayloadOk fetch first counts s
      ((updated.withManifest columns hasNext pageCount s.totalResultRows
        now).finalizeStorage.payload (fetch uri).nextUri) := by
  obtain ⟨i, hfirst, hstored, -⟩ := happlied.reached
  have hall : StoredBefore fetch first s (i + 1) := hstored.succ hfirst (Or.inr hsource)
  have hcount : (updated.withManifest columns hasNext pageCount s.totalResultRows
      now).finalizeStorage.rowCount = some s.totalResultRows := by
    rw [rowCount_finalizeStorage, rowCount_withManifest]
  have hcounted : (updated.withManifest columns hasNext pageCount s.totalResultRows
      now).finalizeStorage.counted = s.totalResultRows := by
    rw [RunResponse.counted, hcount]
    rfl
  have hstatus : (updated.withManifest columns hasNext pageCount s.totalResultRows
      now).finalizeStorage.status = (fetch uri).trinoStatus := by
    rw [status_finalizeStorage, status_withManifest, happlied.status]
  refine ⟨rfl, hcounted.le, fun _ w hw => ?_, fun hsucceeded => ⟨?_, fun _ => hcount⟩⟩
  · rw [optionalString_payload] at hw
    refine reached_next hfirst hall hw fun _ => ?_
    exact (rowsBefore_le_total hshape hfirst hall (Nat.le_refl _)).trans hcounted.ge
  · have hend : nextPage fetch uri = none := nextUri_of_succeeded (hstatus.symm.trans hsucceeded)
    refine complete_of_stored hshape hfirst hall hend fun hnone => ?_
    rw [RunStore.hasSource, hnone] at hsource
    cases hsource

/-- A payload after an empty page that is not to be stored. -/
theorem payloadOk_of_empty (hshape : InOrder fetch first s ∨ LoneEmpty fetch first s)
    (happlied : Applied fetch first counts s updated uri) (hnew : s.hasSource uri = false)
    (hrows : (fetch uri).rows = [])
    (hsome : updated.status = .succeeded → s.pages ≠ []) :
    PayloadOk fetch first counts s (updated.finalizeStorage.payload (fetch uri).nextUri) := by
  obtain ⟨i, hfirst, hstored, hbefore⟩ := happlied.reached
  have huri : chainUri fetch first i = some uri := hfirst.at_n
  have hall : StoredBefore fetch first s (i + 1) := hstored.succ hfirst (Or.inl hrows)
  have hsame : rowsBefore fetch first (i + 1) = rowsBefore fetch first i := by
    rw [rowsBefore, chainPages_succ, huri, Option.bind_some, nonEmptyPage_empty hrows,
      Option.toList_none, List.append_nil]
    rfl
  have hcounted : updated.finalizeStorage.counted = updated.counted :=
    counted_of_rowCount (rowCount_finalizeStorage updated)
  refine ⟨rfl, hcounted.le.trans happlied.counted, fun _ w hw => ?_, fun hsucceeded => ⟨?_, ?_⟩⟩
  · rw [optionalString_payload] at hw
    refine reached_next hfirst hall hw fun hc => ?_
    rw [hsame]
    exact (hbefore hc).trans hcounted.ge
  · have hstatus : updated.status = .succeeded := by
      rw [← status_finalizeStorage]
      exact hsucceeded
    have hend : nextPage fetch uri = none :=
      nextUri_of_succeeded (happlied.status.symm.trans hstatus)
    exact complete_of_stored hshape hfirst hall hend (hsome hstatus)
  · intro hc
    have hstatus : updated.status = .succeeded := by
      rw [← status_finalizeStorage]
      exact hsucceeded
    have hend : nextPage fetch uri = none :=
      nextUri_of_succeeded (happlied.status.symm.trans hstatus)
    have hlast : chainUri fetch first (i + 1) = none := by
      rw [chainUri, trail_succ_of hfirst.at_n, hend]
    have hle := total_le_of_ended hshape hlast
    have hpos := total_pos hshape huri hend hnew (hsome hstatus)
    have hge := hbefore hc
    have hcount := happlied.counted
    show updated.finalizeStorage.rowCount = _
    rw [rowCount_finalizeStorage]
    -- the count is between what comes before the end and the total, and there are rows
    cases hrow : updated.rowCount with
    | none =>
        rw [RunResponse.counted, hrow, Option.getD_none] at hge
        omega
    | some n =>
        rw [RunResponse.counted, hrow, Option.getD_some] at hge hcount
        rw [show n = s.totalResultRows by omega]

/-- A payload whose page could not be stored. -/
theorem payloadOk_of_failed (hcounted : updated.counted ≤ s.totalResultRows) (now : Int)
    (nextUri : Option Text) :
    PayloadOk fetch first counts s ((updated.persistenceFailed now).payload nextUri) := by
  refine ⟨rfl, ?_, (fun hactive => nomatch hactive), (fun hsucceeded => nomatch hsucceeded)⟩
  exact (counted_of_rowCount (rowCount_persistenceFailed updated now)).le.trans hcounted

/-- A payload on the way to a page. -/
theorem Going.payloadOk (h : Going fetch first counts s response uri)
    {saved : RunResponse} (hstatus : saved.status = response.status)
    (hcount : saved.rowCount = response.rowCount) :
    PayloadOk fetch first counts s (saved.payload (some uri)) := by
  have hcounted : saved.counted = response.counted := counted_of_rowCount hcount
  refine ⟨rfl, hcounted.le.trans h.counted, fun _ w hw => ?_, fun hsucceeded => ?_⟩
  · rw [optionalString_payload] at hw
    obtain rfl := Option.some.inj hw
    show Reached fetch first counts s saved.counted uri
    rw [hcounted]
    exact h.reached
  · have hactive := h.active
    rw [← hstatus, show saved.status = .succeeded from hsucceeded] at hactive
    exact nomatch hactive

theorem Going.of_eq (h : Going fetch first counts s response uri) {saved : RunResponse}
    (hstatus : saved.status = response.status) (hcount : saved.rowCount = response.rowCount) :
    Going fetch first counts s saved uri := by
  have hcounted : saved.counted = response.counted := counted_of_rowCount hcount
  exact ⟨hstatus ▸ h.active, hcounted.symm ▸ h.counted, hcounted.symm ▸ h.reached⟩

theorem Applied.of_eq (h : Applied fetch first counts s response uri) {saved : RunResponse}
    (hstatus : saved.status = response.status) (hcount : saved.rowCount = response.rowCount) :
    Applied fetch first counts s saved uri := by
  have hcounted : saved.counted = response.counted := counted_of_rowCount hcount
  exact ⟨hstatus.trans h.status, hcounted.symm ▸ h.counted, hcounted.symm ▸ h.reached⟩

/-- The page that has been fetched is applied. -/
theorem Going.applied (h : Going fetch first counts s response uri) {saved : RunResponse}
    (hstatus : saved.status = (fetch uri).trinoStatus)
    (hcount : saved.rowCount = response.rowCount) :
    Applied fetch first counts s saved uri := by
  have hcounted : saved.counted = response.counted := counted_of_rowCount hcount
  exact ⟨hstatus, hcounted.symm ▸ h.counted, hcounted.symm ▸ h.reached⟩

end

/-! ## A collector's own step -/

section
variable {ρ : Type} {settings : CollectorSettings} {fetch : Text → TrinoClientPage ρ}
  {first : TrinoClientPage ρ} {counts : Bool} {worker : Collector ρ} {input : StepInput}

theorem RunRow.not_overtakes {row : RunRow} {workerId : String} {generation : Nat}
    (h : row.ownedBy workerId generation = true) : ¬ row.overtakes generation := by
  obtain ⟨howner, hgeneration⟩ := RunRow.ownedBy_iff.mp h
  rintro (hnone | hlt)
  · rw [hnone] at howner
    exact nomatch howner
  · omega

theorem RunRow.ownedBy_of_leasedBy {row : RunRow} {workerId : String} {generation : Nat} {now : Int}
    (h : row.leasedBy workerId generation now = true) : row.ownedBy workerId generation = true :=
  (Bool.and_eq_true_iff.mp h).1

section
variable {s : RunStore ρ} {write : CollectorWrite} {next : Stage ρ} {response : RunResponse}
  {uri : Text}

/-- A call goes on only where the run is the collector's. -/
theorem Collector.stageOk_call {otherwise : Stage ρ}
    (hnext : ¬ s.row.overtakes worker.generation →
      (∀ payload, write = .save payload → PayloadOk fetch first counts s payload) ∧
        StageOk fetch first counts s worker.generation next)
    (hother : StageOk fetch first counts s worker.generation otherwise) :
    StageOk fetch first counts s worker.generation (worker.call s write next otherwise) := by
  rw [call]
  split
  · next hadmits =>
      exact hnext (RunRow.not_overtakes (RowCall.ownedBy_of_admits hadmits))
  · exact hother

theorem Collector.stageOk_renew
    (hnext : StageOk fetch first counts s worker.generation next) :
    StageOk fetch first counts s worker.generation (worker.renew settings s input next) :=
  stageOk_call (fun _ => ⟨(fun payload h => nomatch h), hnext⟩) trivial

theorem Collector.stageOk_save {nextUri : Option Text}
    (hsave : ¬ s.row.overtakes worker.generation →
      PayloadOk fetch first counts s (response.payload nextUri) ∧
        StageOk fetch first counts s worker.generation next) :
    StageOk fetch first counts s worker.generation (worker.save s response nextUri next) := by
  refine stageOk_call (fun hown => ⟨?_, (hsave hown).2⟩) trivial
  intro payload heq
  obtain rfl := CollectorWrite.save.inj heq
  exact (hsave hown).1

/-- A collector saves on the way to a page, and goes on to it. -/
theorem Collector.stageOk_save_going {saved : RunResponse}
    (hgoing : s.row.overtakes worker.generation ∨ Going fetch first counts s response uri)
    (hstatus : saved.status = response.status) (hcount : saved.rowCount = response.rowCount) :
    StageOk fetch first counts s worker.generation
      (worker.save s saved (some uri) (.fetching saved uri)) := by
  refine stageOk_save fun hown => ?_
  have h := hgoing.resolve_left hown
  exact ⟨h.payloadOk hstatus hcount, Or.inr (h.of_eq hstatus hcount)⟩

end

variable {s : Collection ρ}

/-- No page has the object that would be written next. -/
theorem Collected.keyFree (h : Collected fetch first counts s) (generation : Nat) :
    KeyFree s.toRunStore generation s.pages.length := by
  intro page hpage heq
  have hindex : page.pageIndex ∈ List.range s.pages.length := by
    rw [← h.indexes]
    exact List.mem_map_of_mem hpage
  have hkey := h.keys page hpage
  rw [heq] at hkey
  have hlt := List.mem_range.mp hindex
  rw [← hkey] at hlt
  exact absurd hlt (Nat.lt_irrefl _)

/-- A page's count is new while nobody else has inserted. -/
theorem Collected.index_free (h : Collected fetch first counts s) {old : ResultPage}
    (hold : old ∈ s.pages) : old.pageIndex ≠ s.pages.length := by
  intro heq
  have hindex : old.pageIndex ∈ List.range s.pages.length := by
    rw [← h.indexes]
    exact List.mem_map_of_mem hold
  have hlt := List.mem_range.mp hindex
  omega

/-- An object that no page has may change. -/
theorem samePages_object {s : RunStore ρ} {generation pageCount : Nat}
    (h : KeyFree s generation pageCount) (value : Option (List String × List ρ)) :
    SamePages s { s with
      objects := Function.update s.objects ⟨pageCount, some generation⟩ value } where
  pages := rfl
  objects := fun page hpage => Function.update_of_ne (h page hpage) _ _

/-- The page that a collector of the current generation inserts. -/
theorem ToInsert.holds {s : RunStore ρ} {updated : RunResponse} {uri : Text} {pageCount : Nat}
    (hobject : s.objects ⟨pageCount, some worker.generation⟩ =
      some (storedColumns updated (fetch uri), (fetch uri).rows)) :
    Holds s (worker.page updated uri (fetch uri) pageCount) (some uri, (fetch uri).rows) :=
  ⟨rfl, hobject, rfl⟩

/-- The stage before a page is written or passed over. -/
theorem Collected.stageOk_counting (h : Collected fetch first counts s) {updated : RunResponse}
    {uri : Text} {page : TrinoClientPage ρ}
    (hok : StageOk fetch first counts s.toRunStore worker.generation (.counting updated uri page)) :
    StageOk fetch first counts s.toRunStore worker.generation
      (if page.rows.isEmpty && (updated.status ≠ .succeeded || 0 < s.pages.length) then
        .saving updated.finalizeStorage page.nextUri
      else .writing updated uri page s.pages.length) := by
  obtain ⟨rfl, hok⟩ := hok
  split
  · next hpass =>
      obtain ⟨hempty, hwhy⟩ := Bool.and_eq_true_iff.mp hpass
      refine hok.imp_right fun ⟨happlied, hnew⟩ => ?_
      refine payloadOk_of_empty h.shape happlied hnew (List.isEmpty_iff.mp hempty) ?_
      intro hsucceeded hnone
      rcases Bool.or_eq_true_iff.mp hwhy with hstatus | hpos
      · exact of_decide_eq_true hstatus hsucceeded
      · have hlt := of_decide_eq_true hpos
        rw [hnone] at hlt
        exact Nat.lt_irrefl 0 hlt
  · next hstore =>
      refine ⟨rfl, h.keyFree worker.generation, hok.imp_right fun ⟨happlied, _⟩ => ?_⟩
      refine ⟨happlied, rfl, ?_⟩
      by_cases hempty : (fetch uri).rows = []
      · refine Or.inr ?_
        have hboth : updated.status = .succeeded ∧ s.pages = [] := by
          simpa [hempty] using hstore
        exact ⟨hboth.1, by rw [hboth.2]; rfl⟩
      · exact Or.inl hempty

/-- The stage after an insert, or after one that was refused. -/
theorem Collected.stageOk_insert (h : Collected fetch first counts s) {updated : RunResponse}
    {uri : Text} {page : TrinoClientPage ρ} {pageCount : Nat}
    (hok : StageOk fetch first counts s.toRunStore worker.generation
      (.inserting updated uri page pageCount)) :
    StageOk fetch first counts (worker.insert s.toRunStore input updated uri page pageCount).1
      worker.generation (worker.insert s.toRunStore input updated uri page pageCount).2 := by
  obtain ⟨rfl, hfree, hok⟩ := hok
  rcases @Collector.insert_eq ρ s.toRunStore worker input updated uri (fetch uri) pageCount with
    ⟨fenced, heq, hwhy⟩ | ⟨heq, hleased, hnew⟩
  · rw [heq]
    refine ⟨rfl, hfree, ?_⟩
    cases fenced with
    | true => exact Or.inl rfl
    | false =>
        obtain ⟨hleased, hdup⟩ := hwhy rfl
        refine Or.inr (hok.imp_right fun ⟨hinsert, _⟩ => ⟨hinsert.toApplied, ?_⟩)
        rcases hdup with hsource | ⟨old, hold, hindex⟩
        · exact hsource
        · exact absurd (hindex.trans hinsert.index) (h.index_free hold)
  · rw [heq]
    have howned := RunRow.ownedBy_of_leasedBy hleased
    obtain ⟨hinsert, hobject⟩ := hok.resolve_left (RunRow.not_overtakes howned)
    have hgrow : ∀ v, s.hasSource v = true →
        (s.toRunStore.addPage (worker.page updated uri (fetch uri) pageCount)).hasSource v = true := by
      intro v hv
      rw [hasSource_addPage, hv, Bool.true_or]
    refine ⟨rfl, Or.inr ⟨⟨hinsert.status, ?_, hinsert.reached.grow hgrow⟩, ?_⟩⟩
    · refine hinsert.counted.trans ?_
      simp [RunStore.totalResultRows, RunStore.addPage]
    · rw [hasSource_addPage]
      simp [Collector.page]

/-- A collector's step leads to a stage that is as good as the one before. -/
theorem Collected.stageOk_advance (h : Collected fetch first counts s)
    (hok : StageOk fetch first counts s.toRunStore worker.generation worker.stage)
    (hreads : counts = true → ∀ updated, worker.stage = .saved updated →
      s.row.payload.status.terminal = false → s.row.payload.counted ≤ updated.counted) :
    StageOk fetch first counts (worker.advance settings fetch s.toRunStore input).1
      worker.generation (worker.advance settings fetch s.toRunStore input).2 := by
  rw [Collector.advance]
  cases hstage : worker.stage with
  | loading =>
      simp only
      split
      · trivial
      · exact Or.inr ⟨h.payload.counted, h.payload.goesOn⟩
  | top response payload =>
      rw [hstage] at hok
      simp only
      split
      · trivial
      · next hactive =>
          split
          · trivial
          · next uri huri =>
              refine Collector.stageOk_renew (hok.imp_right fun hp => ?_)
              exact ⟨by simpa using hactive, hp.1, hp.2 (by simpa using hactive) uri huri⟩
  | starting response uri =>
      rw [hstage] at hok
      simp only
      split
      · exact hok
      · exact Collector.stageOk_save_going hok rfl (rowCount_withResultCollectionTiming _ _)
  | fetching response uri =>
      rw [hstage] at hok
      simp only
      cases input with
      | proceed now => exact ⟨rfl, hok⟩
      | refresh now => exact Collector.stageOk_renew hok
      | observe outputRows now =>
          exact Collector.stageOk_save_going hok rfl (rowCount_applyQueryInfo _ _)
      | fail now => trivial
  | fetched response uri page =>
      rw [hstage] at hok
      exact Collector.stageOk_renew hok
  | applying response uri page =>
      rw [hstage] at hok
      obtain ⟨rfl, hok⟩ := hok
      have happlied : ∀ updated : RunResponse, updated.status = (fetch uri).trinoStatus →
          updated.rowCount = response.rowCount →
          StageOk fetch first counts s.toRunStore worker.generation
            (.checking updated uri (fetch uri)) :=
        fun updated hstatus hcount => ⟨rfl, hok.imp_right fun hp => hp.applied hstatus hcount⟩
      simp only
      split
      · split
        · refine happlied _ rfl ?_
          rw [rowCount_applyQueryInfo, rowCount_applyTrinoPage]
        · exact happlied _ rfl (rowCount_applyTrinoPage _ _)
      · exact happlied _ rfl (rowCount_applyTrinoPage _ _)
  | checking updated uri page =>
      rw [hstage] at hok
      obtain ⟨hpage, hok⟩ := hok
      simp only
      split
      · next hsource =>
          exact ⟨hpage, hok.imp_right fun hp =>
            ⟨hp.of_eq rfl (rowCount_withResultCollectionTiming _ _), hsource⟩⟩
      · next hnew =>
          exact ⟨hpage, hok.imp_right fun hp =>
            ⟨hp.of_eq rfl (rowCount_withResultCollectionTiming _ _), by simpa using hnew⟩⟩
  | counting updated uri page =>
      rw [hstage] at hok
      exact h.stageOk_counting hok
  | writing updated uri page pageCount =>
      rw [hstage] at hok
      obtain ⟨hpage, hfree, hok⟩ := hok
      simp only
      split
      · have hsame := samePages_object hfree none
        refine hok.imp_right fun hinsert => ?_
        exact payloadOk_of_failed (hinsert.toApplied.same hsame).counted _ _
      · have hsame := samePages_object hfree (some (storedColumns updated page, page.rows))
        refine ⟨hpage, hfree, hok.imp_right fun hinsert => ⟨hinsert.same hsame, ?_⟩⟩
        exact Table.put_self _ _ _
  | inserting updated uri page pageCount =>
      rw [hstage] at hok
      exact h.stageOk_insert hok
  | discarding updated uri page pageCount fenced =>
      rw [hstage] at hok
      obtain ⟨hpage, hfree, hok⟩ := hok
      cases fenced with
      | true => trivial
      | false =>
          have hrest := hok.resolve_left (fun heq => nomatch heq)
          simp only
          split
          · exact ⟨hpage, hrest⟩
          · have hsame := samePages_object hfree none
            exact ⟨hpage, hrest.imp_right fun hp => ⟨hp.1.same hsame, hsame.grow _ hp.2⟩⟩
  | manifest updated uri page columns =>
      rw [hstage] at hok
      exact hok
  | totalling updated uri page columns pageCount =>
      rw [hstage] at hok
      obtain ⟨rfl, hok⟩ := hok
      exact hok.imp_right fun hp => payloadOk_of_manifest h.shape hp.1 hp.2 _ _ _ _
  | saving updated nextUri =>
      rw [hstage] at hok
      refine Collector.stageOk_save fun hown => ?_
      have hp := hok.resolve_left hown
      exact ⟨hp, Or.inr hp.counted⟩
  | saved updated =>
      rw [hstage] at hok
      simp only
      split
      · trivial
      · split
        · trivial
        · split
          · trivial
          · cases hterminal : s.row.payload.status.terminal with
            | true => exact Or.inl (Or.inl (h.owner hterminal))
            | false =>
                refine hok.imp_right fun hcounted => ⟨hcounted, fun _ uri huri => ?_⟩
                obtain ⟨i, hfirst, hstored, hbefore⟩ := h.payload.goesOn hterminal uri huri
                refine ⟨i, hfirst, hstored, fun hc => ?_⟩
                exact (hbefore hc).trans (hreads hc updated hstage hterminal)
  | releasing =>
      exact Collector.stageOk_call (fun _ => ⟨(fun payload heq => nomatch heq), trivial⟩) trivial
  | retrying =>
      exact Collector.stageOk_call (fun _ => ⟨(fun payload heq => nomatch heq), trivial⟩) trivial
  | committing write read next =>
      rw [hstage] at hok
      have hseen : SeenBy fetch first counts worker.generation s.toRunStore
          { s.toRunStore with row := write.commit read s.row } := {
        overtakes := by
          rintro (hnone | hlt)
          · refine Or.inl ?_
            show (write.commit read s.row).collectorOwner = none
            rw [CollectorWrite.commit_owner, hnone, ite_self]
          · refine Or.inr ?_
            show worker.generation < (write.commit read s.row).collectorGeneration
            rw [CollectorWrite.commit_generation]
            exact hlt
        payload := fun payload hp => hp.same ⟨rfl, fun _ _ => rfl⟩
        keys := fun pageCount hfree => hfree
        same := Or.inr ⟨⟨rfl, fun _ _ => rfl⟩, fun _ => rfl⟩ }
      exact hseen.stageOk hok.2
  | done => trivial

/-! ## Everybody else -/

/-- Where a page is still to be inserted, the query is not complete. -/
theorem ToInsert.not_complete {s : RunStore ρ} {updated : RunResponse} {uri : Text}
    {pageCount : Nat} (h : ToInsert fetch first counts s updated uri pageCount)
    (hnew : s.hasSource uri = false) : ¬ Complete fetch first s := by
  intro hcomplete
  obtain ⟨i, hfirst, -, -⟩ := h.reached
  rcases h.storable with hrows | ⟨-, hzero⟩
  · rw [hcomplete.hasSource hfirst.at_n hrows] at hnew
    exact nomatch hnew
  · refine hcomplete.pages_ne (List.length_eq_zero_iff.mp ?_)
    rw [← h.index, hzero]

theorem PayloadOk.insert {s : RunStore ρ} {payload : RunPayload} {page : ResultPage}
    (hok : PayloadOk fetch first counts s payload) (hopen : ¬ Complete fetch first s) :
    PayloadOk fetch first counts (s.addPage page) payload where
  engine := hok.engine
  counted := by
    refine hok.counted.trans ?_
    simp [RunStore.totalResultRows, RunStore.addPage]
  goesOn := fun hactive uri huri => (hok.goesOn hactive uri huri).grow fun v hv => by
    rw [hasSource_addPage, hv, Bool.true_or]
  succeeded := fun hsucceeded => absurd (hok.succeeded hsucceeded).1 hopen

/-- What an insert is about. -/
theorem Collected.inserting (h : Collected fetch first counts s) (hworker : worker ∈ s.collectors)
    {updated : RunResponse} {uri : Text} {page : TrinoClientPage ρ} {pageCount : Nat} {now : Int}
    (hstage : worker.stage = .inserting updated uri page pageCount)
    (hleased : s.row.leasedBy worker.workerId worker.generation now = true) :
    page = fetch uri ∧ ToInsert fetch first counts s.toRunStore updated uri pageCount ∧
      s.objects ⟨pageCount, some worker.generation⟩ =
        some (storedColumns updated page, page.rows) := by
  have hok := h.stages worker hworker
  rw [hstage] at hok
  exact ⟨hok.1, hok.2.2.resolve_left
    (RunRow.not_overtakes (RunRow.ownedBy_of_leasedBy hleased))⟩

theorem Collected.payload_step (h : Collected fetch first counts s)
    (hworker : worker ∈ s.collectors) {s' : RunStore ρ}
    (hstep : StoreStep s.toRunStore worker s') {payload : RunPayload}
    (hok : PayloadOk fetch first counts s.toRunStore payload) :
    PayloadOk fetch first counts s' payload := by
  cases hstep with
  | kept => exact hok
  | committed hstage => exact hok.same ⟨rfl, fun _ _ => rfl⟩
  | object pageCount value hfree =>
      exact hok.same (samePages_object (hfree (h.stages worker hworker)) value)
  | inserted hstage hleased hnew =>
      exact hok.insert ((h.inserting hworker hstage hleased).2.1.not_complete hnew)

/-- What a collector's step is to another collector. -/
theorem Collected.seenBy (h : Collected fetch first counts s) (hworker : worker ∈ s.collectors)
    {s' : RunStore ρ} (hstep : StoreStep s.toRunStore worker s') {generation : Nat}
    (hne : generation ≠ worker.generation) (hle : generation ≤ s.row.collectorGeneration) :
    SeenBy fetch first counts generation s.toRunStore s' := by
  have hpayload := fun payload => @payload_step _ fetch first counts worker s h hworker s' hstep payload
  cases hstep with
  | kept => exact ⟨id, hpayload, fun _ hfree => hfree, Or.inr ⟨⟨rfl, fun _ _ => rfl⟩, fun _ => rfl⟩⟩
  | @committed write read next hstage =>
      refine ⟨?_, hpayload, fun _ hfree => hfree, Or.inr ⟨⟨rfl, fun _ _ => rfl⟩, fun _ => rfl⟩⟩
      rintro (hnone | hlt)
      · refine Or.inl ?_
        show (write.commit read s.row).collectorOwner = none
        rw [CollectorWrite.commit_owner, hnone, ite_self]
      · refine Or.inr ?_
        show generation < (write.commit read s.row).collectorGeneration
        rw [CollectorWrite.commit_generation]
        exact hlt
  | object pageCount value hfree =>
      refine ⟨id, hpayload, fun _ hkeys => hkeys,
        Or.inr ⟨samePages_object (hfree (h.stages worker hworker)) value, fun n => ?_⟩⟩
      refine Function.update_of_ne (fun heq => ?_) _ _
      exact hne (Option.some.inj (congrArg ObjectKey.attempt heq))
  | @inserted updated uri page pageCount now hstage hleased hnew =>
      obtain ⟨-, hgeneration⟩ := RunRow.ownedBy_iff.mp (RunRow.ownedBy_of_leasedBy hleased)
      refine ⟨id, hpayload, fun n hkeys old hold => ?_, Or.inl (Or.inr ?_)⟩
      · rcases List.mem_append.mp hold with hold | hnewPage
        · exact hkeys old hold
        · rw [List.mem_singleton.mp hnewPage]
          intro heq
          exact hne (Option.some.inj (congrArg ObjectKey.attempt heq)).symm
      · show generation < s.row.collectorGeneration
        omega

/-! ## One event -/

/-- What the pages are after a step. -/
theorem Collected.pages_step (h : Collected fetch first counts s) (hworker : worker ∈ s.collectors)
    {s' : RunStore ρ} (hstep : StoreStep s.toRunStore worker s') :
    s'.pages.map ResultPage.pageIndex = List.range s'.pages.length ∧
      (s'.pages.map ResultPage.sourceNextUri).Nodup ∧
      (InOrder fetch first s' ∨ LoneEmpty fetch first s') ∧
      ∀ page ∈ s'.pages, page.objectKey.pageIndex = page.pageIndex := by
  have hsame : ∀ {s' : RunStore ρ}, SamePages s.toRunStore s' →
      s'.pages.map ResultPage.pageIndex = List.range s'.pages.length ∧
      (s'.pages.map ResultPage.sourceNextUri).Nodup ∧
      (InOrder fetch first s' ∨ LoneEmpty fetch first s') ∧
      ∀ page ∈ s'.pages, page.objectKey.pageIndex = page.pageIndex := by
    intro s' hs
    refine ⟨?_, ?_, h.shape.imp hs.inOrder hs.loneEmpty, ?_⟩
    · rw [hs.pages]
      exact h.indexes
    · rw [hs.pages]
      exact h.sources
    · rw [hs.pages]
      exact h.keys
  cases hstep with
  | kept => exact hsame ⟨rfl, fun _ _ => rfl⟩
  | committed hstage => exact hsame ⟨rfl, fun _ _ => rfl⟩
  | object pageCount value hfree =>
      exact hsame (samePages_object (hfree (h.stages worker hworker)) value)
  | @inserted updated uri page pageCount now hstage hleased hnew =>
      obtain ⟨rfl, hinsert, hobject⟩ := h.inserting hworker hstage hleased
      have hholds := @ToInsert.holds ρ fetch worker s.toRunStore updated uri pageCount hobject
      obtain ⟨i, hfirst, hstored, -⟩ := hinsert.reached
      refine ⟨?_, ?_, ?_, ?_⟩
      · show List.map _ (s.pages ++ [_]) = List.range (s.pages ++ [_]).length
        rw [List.map_append, h.indexes, List.length_append, List.length_singleton,
          List.range_succ, ← hinsert.index]
        rfl
      · show (List.map _ (s.pages ++ [_])).Nodup
        rw [List.map_append, List.nodup_append']
        refine ⟨h.sources, List.nodup_singleton _, ?_⟩
        intro source hold hnewPage
        obtain ⟨old, hmem, heq⟩ := List.mem_map.mp hold
        rw [List.map_singleton, List.mem_singleton] at hnewPage
        have hstoredUri : s.hasSource uri = true :=
          List.any_eq_true.mpr ⟨old, hmem, decide_eq_true (heq.trans hnewPage)⟩
        rw [hstoredUri] at hnew
        exact nomatch hnew
      · rcases hinsert.storable with hrows | ⟨hsucceeded, hzero⟩
        · exact Or.inl (InOrder.insert h.shape hfirst hstored hnew hrows hholds)
        · by_cases hrows : (fetch uri).rows = []
          · have hnone : s.pages = [] := List.length_eq_zero_iff.mp (hinsert.index.symm.trans hzero)
            have hlast : nextPage fetch uri = none :=
              nextUri_of_succeeded (hinsert.status.symm.trans hsucceeded)
            exact Or.inr (LoneEmpty.insert h.shape hfirst hstored hnone hrows hlast hholds)
          · exact Or.inl (InOrder.insert h.shape hfirst hstored hnew hrows hholds)
      · intro old hold
        rcases List.mem_append.mp hold with hold | hnewPage
        · exact h.keys old hold
        · rw [List.mem_singleton.mp hnewPage]
          rfl

/-- What the row is after a step. -/
theorem Collected.row_step (h : Collected fetch first counts s) (hworker : worker ∈ s.collectors)
    {s' : RunStore ρ} (hstep : StoreStep s.toRunStore worker s') :
    PayloadOk fetch first counts s' s'.row.payload ∧
      (s'.row.payload.status.terminal = true → s'.row.collectorOwner = none) ∧
      s'.row.collectorGeneration = s.row.collectorGeneration := by
  have hpayload := fun payload => @payload_step _ fetch first counts worker s h hworker s' hstep payload
  cases hstep with
  | kept => exact ⟨h.payload, h.owner, rfl⟩
  | object pageCount value hfree => exact ⟨hpayload _ h.payload, h.owner, rfl⟩
  | inserted hstage hleased hnew => exact ⟨hpayload _ h.payload, h.owner, rfl⟩
  | @committed write read next hstage =>
      have hok := h.stages worker hworker
      rw [hstage] at hok
      refine ⟨?_, ?_, CollectorWrite.commit_generation⟩
      · cases write with
        | renew => exact hpayload _ h.payload
        | release => exact hpayload _ h.payload
        | retry => exact hpayload _ h.payload
        | save payload => exact hpayload _ (hok.1 payload rfl)
      · intro hterminal
        show (write.commit read s.row).collectorOwner = none
        rw [CollectorWrite.commit_owner]
        cases write with
        | renew => exact h.owner hterminal
        | release => rfl
        | retry => rfl
        | save payload =>
            refine if_pos ?_
            show payload.ends = true
            rw [RunPayload.ends, show payload.status.terminal = true from hterminal, Bool.true_or]

/-- The other collectors are of other generations. -/
theorem Collected.generation_ne (h : Collected fetch first counts s) {k : Nat}
    (hk : s.collectors[k]? = some worker) {next other : Collector ρ}
    (hother : other ∈ s.collectors.set k next) :
    other = next ∨ other ∈ s.collectors ∧ other.generation ≠ worker.generation := by
  obtain ⟨j, hj⟩ := List.mem_iff_getElem?.mp hother
  rw [List.getElem?_set] at hj
  split at hj
  · split at hj
    · exact Or.inl (Option.some.inj hj).symm
    · exact nomatch hj
  · next hne =>
      refine Or.inr ⟨List.mem_of_getElem? hj, fun heq => hne ?_⟩
      have hnodup : (s.collectors.map Collector.generation).Nodup :=
        h.distinct.imp fun hlt => Nat.ne_of_lt hlt
      have hj' : (s.collectors.map Collector.generation)[j]? = some other.generation := by
        rw [List.getElem?_map, hj, Option.map_some]
      have hk' : (s.collectors.map Collector.generation)[k]? = some worker.generation := by
        rw [List.getElem?_map, hk, Option.map_some]
      have hlt : k < (s.collectors.map Collector.generation).length :=
        (List.getElem?_eq_some_iff.mp hk').1
      exact (List.getElem?_inj hlt hnodup).mp (hk'.trans (heq ▸ hj'.symm))

/-- The response of a collector that has saved it. -/
def Stage.saved? : Stage ρ → Option RunResponse
  | .saved updated => some updated
  | _ => none

/-- The collector that takes a step. -/
def Collection.acting (s : Collection ρ) : CollectionEvent → Option (Collector ρ)
  | .act k _ => s.collectors[k]?
  | .claim .. | .crash _ => none

/-- A collector that reads the payload again, in a run that goes on, finds no more rows
counted in it than in the response that it goes on with. -/
def ReadsNoMore (s : Collection ρ) (event : CollectionEvent) : Prop :=
  ∀ worker ∈ s.acting event, ∀ updated ∈ worker.stage.saved?,
    s.row.payload.status.terminal = false → s.row.payload.counted ≤ updated.counted

instance (s : Collection ρ) (event : CollectionEvent) : Decidable (ReadsNoMore s event) :=
  inferInstanceAs (Decidable (∀ worker ∈ s.acting event, ∀ updated ∈ worker.stage.saved?,
    s.row.payload.status.terminal = false → s.row.payload.counted ≤ updated.counted))

theorem Collected.act (h : Collected fetch first counts s) {k : Nat}
    (hk : s.collectors[k]? = some worker)
    (hreads : counts = true → ∀ updated, worker.stage = .saved updated →
      s.row.payload.status.terminal = false → s.row.payload.counted ≤ updated.counted) :
    Collected fetch first counts (s.act settings fetch k worker input) := by
  have hworker : worker ∈ s.collectors := List.mem_of_getElem? hk
  have hstep := @Collector.storeStep ρ settings fetch s.toRunStore worker input
  obtain ⟨hindexes, hsources, hshape, hkeys⟩ := h.pages_step hworker hstep
  obtain ⟨hpayload, howner, hgeneration⟩ := h.row_step hworker hstep
  refine ⟨hindexes, hsources, hshape, hkeys, hpayload, howner, ?_, ?_, ?_⟩
  · intro other hother
    show other.generation ≤ (worker.advance settings fetch s.toRunStore input).1.row.collectorGeneration
    rw [hgeneration]
    rcases h.generation_ne hk hother with rfl | ⟨hother, -⟩
    · exact h.generations worker hworker
    · exact h.generations other hother
  · show ((s.collectors.set k _).map Collector.generation).Pairwise (· < ·)
    rw [List.map_set]
    have hmap : (s.collectors.map Collector.generation)[k]? = some worker.generation := by
      rw [List.getElem?_map, hk, Option.map_some]
    obtain ⟨hlt, heq⟩ := List.getElem?_eq_some_iff.mp hmap
    rw [← heq, List.set_getElem_self]
    exact h.distinct
  · intro other hother
    rcases h.generation_ne hk hother with rfl | ⟨hother, hne⟩
    · exact h.stageOk_advance (h.stages worker hworker) hreads
    · exact (h.seenBy hworker hstep hne (h.generations other hother)).stageOk
        (h.stages other hother)

theorem Collected.claim (h : Collected fetch first counts s) {workerId : String}
    {leaseSeconds now : Int} {row : RunRow}
    (hclaim : s.row.claim workerId leaseSeconds now = some row) :
    Collected fetch first counts { s with
      row, collectors := s.collectors ++ [{ workerId, generation := row.collectorGeneration }] } := by
  obtain ⟨hclaimable, rfl⟩ := RunRow.claim_eq_some hclaim
  have hsame : SamePages s.toRunStore { s.toRunStore with row := { s.row with
      collectorGeneration := s.row.collectorGeneration + 1
      collectorOwner := some workerId
      collectorLeaseExpiresAt := some (now + leaseSeconds * 1000000)
      collectorNextAttemptAt := none } } := ⟨rfl, fun _ _ => rfl⟩
  refine ⟨h.indexes, h.sources, h.shape.imp hsame.inOrder hsame.loneEmpty, h.keys,
    h.payload.same hsame, ?_, ?_, ?_, ?_⟩
  · intro hterminal
    have hterminal' : s.row.payload.status.terminal = true := hterminal
    simp [RunRow.claimable, RunRow.terminalSqlJob, h.payload.engine, hterminal'] at hclaimable
  · intro other hother
    rcases List.mem_append.mp hother with hother | hnew
    · exact (h.generations other hother).trans (Nat.le_succ _)
    · rw [List.mem_singleton.mp hnew]
  · show ((s.collectors ++ [_]).map Collector.generation).Pairwise (· < ·)
    rw [List.map_append, List.pairwise_append]
    refine ⟨h.distinct, List.pairwise_singleton _ _, ?_⟩
    intro generation hold new hnew
    obtain ⟨other, hother, rfl⟩ := List.mem_map.mp hold
    rw [List.map_singleton, List.mem_singleton] at hnew
    rw [hnew]
    exact Nat.lt_succ_of_le (h.generations other hother)
  · intro other hother
    rcases List.mem_append.mp hother with hother | hnew
    · have hseen : SeenBy fetch first counts other.generation s.toRunStore
          { s.toRunStore with row := { s.row with
            collectorGeneration := s.row.collectorGeneration + 1
            collectorOwner := some workerId
            collectorLeaseExpiresAt := some (now + leaseSeconds * 1000000)
            collectorNextAttemptAt := none } } := {
        overtakes := fun _ => Or.inr (Nat.lt_succ_of_le (h.generations other hother))
        payload := fun payload hp => hp.same ⟨rfl, fun _ _ => rfl⟩
        keys := fun pageCount hfree => hfree
        same := Or.inl (Or.inr (Nat.lt_succ_of_le (h.generations other hother))) }
      exact hseen.stageOk (h.stages other hother)
    · rw [List.mem_singleton.mp hnew]
      trivial

theorem Collected.crash (h : Collected fetch first counts s) (k : Nat) :
    Collected fetch first counts { s with collectors := s.collectors.modify k fun worker =>
      { worker with stage := .done } } := by
  have hmem : ∀ other ∈ s.collectors.modify k fun worker => { worker with stage := .done },
      ∃ worker ∈ s.collectors, other = worker ∨ other = { worker with stage := .done } := by
    intro other hother
    obtain ⟨j, hj⟩ := List.mem_iff_getElem?.mp hother
    rw [List.getElem?_modify] at hj
    obtain ⟨worker, hworker, heq⟩ := Option.map_eq_some_iff.mp hj
    refine ⟨worker, List.mem_of_getElem? hworker, ?_⟩
    split at heq
    · exact Or.inr heq.symm
    · exact Or.inl heq.symm
  refine ⟨h.indexes, h.sources, h.shape, h.keys, h.payload, h.owner, ?_, ?_, ?_⟩
  · intro other hother
    obtain ⟨worker, hworker, rfl | rfl⟩ := hmem other hother
    · exact h.generations other hworker
    · exact h.generations worker hworker
  · have hmap : (s.collectors.modify k fun worker => { worker with stage := .done }).map
        Collector.generation = s.collectors.map Collector.generation := by
      refine List.ext_getElem? fun j => ?_
      rw [List.getElem?_map, List.getElem?_map, List.getElem?_modify]
      cases s.collectors[j]? with
      | none => rfl
      | some worker =>
          rw [Option.map_eq_map, Option.map_some, Option.map_some, Option.map_some]
          split
          · rfl
          · rfl
    show (List.map _ _).Pairwise (· < ·)
    rw [hmap]
    exact h.distinct
  · intro other hother
    obtain ⟨worker, hworker, rfl | rfl⟩ := hmem other hother
    · exact h.stages other hworker
    · trivial

/-- One event keeps the invariant; the counts stay right if no collector reads more. -/
theorem Collected.step (h : Collected fetch first counts s) {event : CollectionEvent}
    (hreads : counts = true → ReadsNoMore s event) :
    Collected fetch first counts (s.step settings fetch event) := by
  cases event with
  | claim workerId now =>
      rw [Collection.step]
      split
      · exact h
      · next row hclaim => exact h.claim hclaim
  | act k input =>
      rw [Collection.step]
      cases hk : s.collectors[k]? with
      | none => exact h
      | some worker =>
          refine h.act hk fun hc updated hstage hterminal => ?_
          exact hreads hc worker hk updated (by rw [hstage]; rfl) hterminal
  | crash k => exact h.crash k

/-! ## The result -/

variable (fetch first) in
/-- The stored pages are the first of the chain, and a run that has succeeded has all. -/
structure CollectedOnce (s : Collection ρ) : Prop where
  indexes : s.pages.map ResultPage.pageIndex = List.range s.pages.length
  sources : (s.pages.map ResultPage.sourceNextUri).Nodup
  inOrder : InOrder fetch first s.toRunStore ∨ LoneEmpty fetch first s.toRunStore
  complete : s.row.payload.status = .succeeded → Complete fetch first s.toRunStore
  rowCount : s.row.payload.status = .succeeded →
    s.row.payload.rowCount = some (s.pages.map ResultPage.rowCount).sum

/-- Pages are added under the lease. -/
theorem StoreStep.owned {s s' : RunStore ρ} (hstep : StoreStep s worker s')
    (hchanged : s'.pages ≠ s.pages) :
    s.row.ownedBy worker.workerId worker.generation = true := by
  cases hstep with
  | inserted hstage hleased hnew => exact RunRow.ownedBy_of_leasedBy hleased
  | kept => exact absurd rfl hchanged
  | committed hstage => exact absurd rfl hchanged
  | object pageCount value hfree => exact absurd rfl hchanged

variable (settings fetch) in
/-- Only the collector that has the run adds a page. -/
def AddedByCurrent (s : Collection ρ) (event : CollectionEvent) : Prop :=
  (s.step settings fetch event).pages ≠ s.pages →
    ∃ k input, event = .act k input ∧ ∃ worker ∈ s.collectors[k]?,
      s.row.ownedBy worker.workerId worker.generation = true

theorem addedByCurrent (s : Collection ρ) (event : CollectionEvent) :
    AddedByCurrent settings fetch s event := by
  intro hpages
  cases event with
  | claim workerId now =>
      refine absurd ?_ hpages
      rw [Collection.step]
      split
      · rfl
      · rfl
  | crash k => exact absurd rfl hpages
  | act k input =>
      cases hk : s.collectors[k]? with
      | none =>
          refine absurd ?_ hpages
          rw [Collection.step, hk]
          rfl
      | some worker =>
          refine ⟨k, input, rfl, worker, hk, ?_⟩
          rw [Collection.step, hk] at hpages
          have hchanged : (worker.advance settings fetch s.toRunStore input).1.pages ≠ s.pages :=
            hpages
          exact Collector.storeStep.owned hchanged

section
variable (baseDatasetId query : String) (now : Int)

theorem status_submittedResponse :
    (submittedResponse baseDatasetId query first now).status = first.trinoStatus := by
  rw [submittedResponse, status_finalizeStorage]
  split
  · rfl
  · rfl

theorem rowCount_submittedResponse :
    (submittedResponse baseDatasetId query first now).rowCount =
      if first.rows.isEmpty && first.trinoStatus ≠ .succeeded then none
      else some first.rows.length := by
  rw [submittedResponse, rowCount_finalizeStorage]
  show RunResponse.rowCount (if (first.rows.isEmpty && first.trinoStatus ≠ .succeeded) = true
    then _ else _) = _
  split
  · rfl
  · rfl

/-- The first place of the chain, where the rows of the first page are counted. -/
theorem reached_first {s : RunStore ρ} {counted : Nat} {uri : Text}
    (huri : first.nextUri = some uri) (hcounted : first.rows.length ≤ counted) :
    Reached fetch first counts s counted uri := by
  have hbefore : rowsBefore fetch first 0 = first.rows.length := by
    rw [rowsBefore, chainPages, marks_zero, List.append_nil]
    split
    · next hempty =>
        rw [List.isEmpty_iff.mp hempty]
        rfl
    · simp
  exact ⟨0, ⟨huri, fun m hm => absurd hm (Nat.not_lt_zero m)⟩,
    fun j hj => absurd hj (Nat.not_lt_zero j), fun _ => hbefore.le.trans hcounted⟩

/-- What the submission leaves is in order. -/
theorem collected_submitted :
    Collected fetch first counts (submitted baseDatasetId query first now) := by
  have hstatus := @status_submittedResponse ρ first baseDatasetId query now
  have hrow := @rowCount_submittedResponse ρ first baseDatasetId query now
  by_cases hskip : (first.rows.isEmpty && first.trinoStatus ≠ .succeeded) = true
  · obtain ⟨hempty, hopen⟩ := Bool.and_eq_true_iff.mp hskip
    have hpages : (submitted baseDatasetId query first now).pages = [] := if_pos hskip
    rw [if_pos hskip] at hrow
    have hzero : (submittedResponse baseDatasetId query first now).counted = 0 := by
      rw [RunResponse.counted, hrow]
      rfl
    refine ⟨?_, ?_, Or.inl ⟨0, ?_⟩, ?_, ?_, fun _ => rfl, ?_, List.Pairwise.nil, ?_⟩
    · rw [hpages]
      rfl
    · rw [hpages]
      exact List.nodup_nil
    · rw [hpages, chainPages, if_pos hempty]
      exact List.Forall₂.nil
    · rw [hpages]
      exact fun page hpage => by cases hpage
    · refine ⟨rfl, hzero.le.trans (Nat.zero_le _), fun _ uri huri => ?_, fun hsucceeded => ?_⟩
      · refine reached_first ((optionalString_payload _ _).symm.trans huri) ?_
        rw [List.isEmpty_iff.mp hempty]
        exact Nat.zero_le _
      · exact absurd (hstatus.symm.trans hsucceeded) (of_decide_eq_true hopen)
    · exact fun worker hworker => by cases hworker
    · exact fun worker hworker => by cases hworker
  · have hpages : (submitted baseDatasetId query first now).pages =
        [firstPage baseDatasetId query first now] := if_neg hskip
    have hobjects : (submitted baseDatasetId query first now).objects ⟨0, none⟩ =
        some ((firstPage baseDatasetId query first now).columns, first.rows) := by
      show (if _ then _ else _ : Table ObjectKey (List String × List ρ)) _ = _
      rw [if_neg hskip, Table.put_self]
    rw [if_neg hskip] at hrow
    have hholds : List.Forall₂ (Holds (submitted baseDatasetId query first now).toRunStore)
        (submitted baseDatasetId query first now).pages [(none, first.rows)] := by
      rw [hpages]
      exact .cons ⟨rfl, hobjects, rfl⟩ .nil
    have htotal : (submitted baseDatasetId query first now).totalResultRows = first.rows.length := by
      rw [totalResultRows_eq hholds]
      simp
    have hcounted : (submittedResponse baseDatasetId query first now).counted =
        first.rows.length := by
      rw [RunResponse.counted, hrow]
      rfl
    have hlone : first.rows = [] → first.nextUri = none →
        LoneEmpty fetch first (submitted baseDatasetId query first now).toRunStore := by
      intro hempty hend
      refine ⟨0, none, hend, ?_, .first hend, ?_⟩
      · rw [chainPages, hempty]
        rfl
      · rw [hempty] at hholds
        exact hholds
    have hordered : first.rows ≠ [] → chainPages fetch first 0 = [(none, first.rows)] := by
      intro hrows
      rw [chainPages, if_neg (by simpa using hrows)]
      rfl
    have hend : first.trinoStatus = .succeeded → first.nextUri = none := nextUri_of_succeeded
    refine ⟨?_, ?_, ?_, ?_, ?_, fun _ => rfl, ?_, List.Pairwise.nil, ?_⟩
    · rw [hpages]
      rfl
    · rw [hpages]
      exact List.nodup_singleton _
    · by_cases hrows : first.rows = []
      · refine Or.inr (hlone hrows (hend ?_))
        simpa [hrows] using hskip
      · refine Or.inl ⟨0, ?_⟩
        rw [hordered hrows]
        exact hholds
    · rw [hpages]
      intro page hpage
      rw [List.mem_singleton.mp hpage]
      rfl
    · refine ⟨rfl, ?_, fun _ uri huri => ?_, fun hsucceeded => ⟨?_, fun _ => ?_⟩⟩
      · exact hcounted.le.trans htotal.ge
      · exact reached_first ((optionalString_payload _ _).symm.trans huri) hcounted.ge
      · have hdone := hend (hstatus.symm.trans hsucceeded)
        by_cases hrows : first.rows = []
        · exact Or.inr (hlone hrows hdone)
        · refine Or.inl ⟨0, hdone, ?_, ?_⟩
          · rw [hordered hrows]
            exact List.cons_ne_nil _ _
          · rw [hordered hrows]
            exact hholds
      · rw [htotal]
        exact hrow
    · exact fun worker hworker => by cases hworker
    · exact fun worker hworker => by cases hworker

end

theorem Collected.collectedOnce (h : Collected fetch first true s) : CollectedOnce fetch first s where
  indexes := h.indexes
  sources := h.sources
  inOrder := h.shape
  complete := fun hsucceeded => (h.payload.succeeded hsucceeded).1
  rowCount := fun hsucceeded => (h.payload.succeeded hsucceeded).2 rfl

end

section
variable {ρ : Type} (settings : CollectorSettings) (fetch : Text → TrinoClientPage ρ)
  (baseDatasetId query : String) (first : TrinoClientPage ρ) (now : Int)
  (events : List CollectionEvent)

/-- If no collector reads more rows in the payload than it has counted, a run that has
succeeded counts the rows of its pages too. -/
theorem pages_collected_once
    (hreads : Along ReadsNoMore (Collection.step settings fetch)
      (submitted baseDatasetId query first now) events) :
    Always (CollectedOnce fetch first) (Collection.step settings fetch)
        (submitted baseDatasetId query first now) events ∧
      Along (AddedByCurrent settings fetch) (Collection.step settings fetch)
        (submitted baseDatasetId query first now) events := by
  constructor
  · have hinv : Always (Collected fetch first true) (Collection.step settings fetch)
        (submitted baseDatasetId query first now) events :=
      Always.of_along (fun s event h hread => h.step fun _ => hread)
        (collected_submitted baseDatasetId query now) hreads
    exact hinv.imp fun s h => h.collectedOnce
  · exact hreads.imp fun s event _ => addedByCurrent s event

end

/-! ## A query of four pages, the third of which has a row -/

def secondUri : Text := ⟨"/v1/statement/q/2", by decide +kernel, by decide⟩

def thirdUri : Text := ⟨"/v1/statement/q/3", by decide +kernel, by decide⟩

def lastUri : Text := ⟨"/v1/statement/q/4", by decide +kernel, by decide⟩

def queuedPage : TrinoClientPage Nat := { rows := [], nextUri := some secondUri, state := .waiting }

def fetchPage (uri : Text) : TrinoClientPage Nat :=
  if uri = secondUri then { rows := [], nextUri := some thirdUri, state := .other }
  else if uri = thirdUri then { rows := [7], nextUri := some lastUri, state := .other }
  else { rows := [], nextUri := none, state := .finished }

def collectorSettings : CollectorSettings := { leaseSeconds := 30, pagesPerLease := 10 }

/-- Some steps of one collector. -/
def steps (k n : Nat) (now : Int) : List CollectionEvent := List.replicate n (.act k (.proceed now))

/-- One collector, from the first page to the last. -/
def collectedAlone : List CollectionEvent := .claim "worker-a" 0 :: steps 0 42 0

theorem pages_collected_once_alone :
    Always (CollectedOnce fetchPage queuedPage) (Collection.step collectorSettings fetchPage)
        (submitted "dataset-orders" "SELECT 7" queuedPage 0) collectedAlone ∧
      Along (AddedByCurrent collectorSettings fetchPage)
        (Collection.step collectorSettings fetchPage)
        (submitted "dataset-orders" "SELECT 7" queuedPage 0) collectedAlone :=
  pages_collected_once collectorSettings fetchPage "dataset-orders" "SELECT 7" queuedPage 0
    collectedAlone (by decide +kernel)

/-- Two collectors whose saves are late: the first goes back to the second page, and the
second to the last one, which a third collector goes on with. -/
def collectedLate : List CollectionEvent :=
  .claim "worker-a" 0 :: steps 0 4 0 ++ .act 0 (.observe (some 1) 0) ::
    .claim "worker-b" 100000000 :: steps 1 27 100000000 ++ steps 0 1 100000000 ++
    .claim "worker-c" 200000000 :: steps 2 12 200000000 ++ steps 1 1 200000000 ++
    steps 2 12 200000000

/-- The run has succeeded, and counts none of its rows. -/
theorem rows_not_counted :
    ¬ CollectedOnce fetchPage queuedPage (play (Collection.step collectorSettings fetchPage)
      (submitted "dataset-orders" "SELECT 7" queuedPage 0) collectedLate) := by
  intro h
  have hcount := h.rowCount (by decide +kernel)
  have hnone : (play (Collection.step collectorSettings fetchPage)
      (submitted "dataset-orders" "SELECT 7" queuedPage 0) collectedLate).row.payload.rowCount =
        none := by
    decide +kernel
  rw [hnone] at hcount
  exact nomatch hcount

end AskLake.Trino

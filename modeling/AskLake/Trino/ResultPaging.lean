/-
# `AskLake.Trino.ResultPaging` — reading a result page by page

The rows of a result are stored in pages of any sizes and read in pages of one size.  A page that
is read goes over as many stored pages as it needs, and says by its cursor where the next one
begins: a stored page, an offset in it, and the number of the page.

    stored     ■■■■■ ■■ ■■■■■■■
    read       ■■■■|■ ■■ ■|■■■■|■■

What is left of the rows when a page begins decides the page (`readVisibleRows_spec`), so that
the pages are the rows in pieces of the page size (`Follows`).
-/
import Mathlib.Data.List.TakeDrop
import AskLake.Trino.ResultCursor

namespace AskLake.Trino

open AskLake.Lib AskLake.Python

/-- A stored page, as `_read_page` reads it. -/
structure StoredPage (ρ : Type) where
  columns : List String
  rows : List ρ

/-- A run whose result is read. -/
structure ResultRun (ρ : Type) where
  runId : String
  pages : List (StoredPage ρ)
  retentionExpiresAt : Option String
  /-- `payload["resultPageSize"]` -/
  resultPageSize : Option Int
  /-- `row_count`, where the result is available -/
  totalRows : Option Nat
  /-- The run is queued or running. -/
  collecting : Bool

structure ResultPageView (ρ : Type) where
  columns : List String
  nextCursor : Option Chars
  pageSize : Int
  pageNumber : Int
  rowEnd : Int
  rowStart : Int
  rows : List ρ
  totalPages : Option Int
  totalRows : Option Nat

/-- `normalized_result_page_size` -/
def normalizedResultPageSize (value : Option Int) : Int :=
  max 1 (min (if value.getD 0 = 0 then 100 else value.getD 0) 1000)

section

variable {ρ : Type}

/-- Where the loop of `_read_visible_rows` stands. -/
structure ReadState (ρ : Type) where
  columns : List String
  visibleRows : List ρ
  pageIndex : Nat
  rowOffset : Nat

/-- The loop of `_read_visible_rows`; `rest` are the stored pages from the current one on. -/
def readLoop (pageSize : Nat) : List (StoredPage ρ) → ReadState ρ → ReadState ρ
  | [], s => s
  | page :: rest, s =>
      if s.visibleRows.length < pageSize then
        let remaining := pageSize - s.visibleRows.length
        let rowOffset := s.rowOffset + min remaining (page.rows.length - s.rowOffset)
        let columns := if s.columns = [] then page.columns else s.columns
        let visibleRows := s.visibleRows ++ (page.rows.drop s.rowOffset).take remaining
        if rowOffset < page.rows.length then ⟨columns, visibleRows, s.pageIndex, rowOffset⟩
        else readLoop pageSize rest ⟨columns, visibleRows, s.pageIndex + 1, 0⟩
      else s

/-- `_read_visible_rows` -/
def readVisibleRows (pages : List (StoredPage ρ)) (pageIndex rowOffset pageSize : Nat) :
    List String × List ρ × Option (Nat × Nat) :=
  let s := readLoop pageSize (pages.drop pageIndex) ⟨[], [], pageIndex, rowOffset⟩
  if pages.length ≤ s.pageIndex then (s.columns, s.visibleRows, none)
  else (s.columns, s.visibleRows, some (s.pageIndex, s.rowOffset))

variable (rt : CursorRuntime) (secret : String)

/-- `_next_cursor` -/
def nextCursor (run : ResultRun ρ) (logicalPageIndex : Int) :
    Option (Nat × Nat) → Except ResultPageError (Option Chars)
  | none => .ok none
  | some (pageIndex, rowOffset) =>
      (encodeCursor rt secret pageIndex run.runId run.retentionExpiresAt rowOffset
        (logicalPageIndex + 1)).map some

/-- `require_retention` -/
def requireRetention (now : Int) (retentionExpiresAt : Option String) :
    Except ResultPageError Unit :=
  match retentionExpiresAt.bind fun text => if text = "" then none else rt.fromisoformat text with
  | some expiry => rejectIf (expiry ≤ now) .expired
  | none => .ok ()

def getResultPage (now : Int) (run : ResultRun ρ) (cursor : Option Chars) :
    Except ResultPageError (ResultPageView ρ) := do
  requireRetention rt now run.retentionExpiresAt
  let position ← decodeCursorPosition rt secret now run.runId run.retentionExpiresAt cursor
  rejectIf (run.pages.length ≤ position.pageIndex.toNat)
    (if run.collecting then .notReady else .notFound)
  let pageSize := normalizedResultPageSize run.resultPageSize
  let (columns, visibleRows, nextPosition) := readVisibleRows run.pages position.pageIndex.toNat
    position.rowOffset.toNat pageSize.toNat
  let next ← nextCursor rt secret run position.logicalPageIndex nextPosition
  let rowStart := if visibleRows = [] then 0 else position.logicalPageIndex * pageSize + 1
  pure
    { columns
      nextCursor := next
      pageSize
      pageNumber := position.logicalPageIndex + 1
      rowEnd := if visibleRows = [] then 0 else rowStart + visibleRows.length - 1
      rowStart
      rows := visibleRows
      totalPages := run.totalRows.map fun total => (total + pageSize - 1) / pageSize
      totalRows := run.totalRows }

end

/-! ## One page -/

section

variable {ρ : Type}

/-- The rows of some stored pages. -/
def rowsOf (pages : List (StoredPage ρ)) : List ρ := pages.flatMap StoredPage.rows

/-- An offset is in the first of the pages. -/
def Inside (rowOffset : Nat) (rest : List (StoredPage ρ)) : Prop :=
  ∀ page ∈ rest.head?, rowOffset < page.rows.length

theorem inside_zero {rest : List (StoredPage ρ)} (h : ∀ page ∈ rest, page.rows ≠ []) :
    Inside 0 rest := by
  intro page hpage
  exact List.length_pos_iff.mpr (h page (List.mem_of_mem_head? hpage))

theorem left_eq_nil {rowOffset : Nat} {rest : List (StoredPage ρ)} (h : Inside rowOffset rest) :
    (rowsOf rest).drop rowOffset = [] ↔ rest = [] := by
  cases rest with
  | nil => simp [rowsOf]
  | cons page rest =>
      have hlt := h page rfl
      simp only [rowsOf, List.flatMap_cons, List.drop_eq_nil_iff, List.length_append, reduceCtorEq,
        iff_false]
      omega

/-- The loop adds the rows that are left, as many as the page has place for, and stops where the
others begin. -/
theorem readLoop_spec {pageSize : Nat} {rest : List (StoredPage ρ)}
    (hrest : ∀ page ∈ rest, page.rows ≠ []) {s : ReadState ρ} (hinside : Inside s.rowOffset rest) :
    (readLoop pageSize rest s).visibleRows =
        s.visibleRows ++ ((rowsOf rest).drop s.rowOffset).take (pageSize - s.visibleRows.length) ∧
      ∃ k, (readLoop pageSize rest s).pageIndex = s.pageIndex + k ∧
        Inside (readLoop pageSize rest s).rowOffset (rest.drop k) ∧ k ≤ rest.length ∧
        (rowsOf (rest.drop k)).drop (readLoop pageSize rest s).rowOffset =
          ((rowsOf rest).drop s.rowOffset).drop (pageSize - s.visibleRows.length) := by
  induction rest generalizing s with
  | nil => exact ⟨by simp [readLoop, rowsOf], 0, rfl, hinside, Nat.le_refl _, by simp [rowsOf]⟩
  | cons page rest ih =>
      have hoffset : s.rowOffset < page.rows.length := hinside page rfl
      have hleft : (rowsOf (page :: rest)).drop s.rowOffset =
          page.rows.drop s.rowOffset ++ rowsOf rest :=
        List.drop_append_of_le_length hoffset.le
      unfold readLoop
      split
      · rename_i hroom
        dsimp only
        generalize hremaining : pageSize - s.visibleRows.length = remaining
        split
        · -- The stored page has more rows than there is place for.
          rename_i hmore
          have hshort : remaining ≤ (page.rows.drop s.rowOffset).length := by
            rw [List.length_drop]
            omega
          refine ⟨?_, 0, rfl, ?_, Nat.zero_le _, ?_⟩
          · rw [hleft, List.take_append_of_le_length hshort]
          · rintro _ ⟨⟩
            exact hmore
          · rw [List.drop_zero, List.drop_drop,
              (by omega : s.rowOffset + min remaining (page.rows.length - s.rowOffset) =
                s.rowOffset + remaining)]
        · -- The stored page is read to its end.
          rename_i hall
          have hlong : (page.rows.drop s.rowOffset).length ≤ remaining := by
            rw [List.length_drop]
            omega
          obtain ⟨hrows, k, hindex, hinside', hk, hrest'⟩ :=
            @ih (fun p hp => hrest p (List.mem_cons_of_mem _ hp))
              ⟨if s.columns = [] then page.columns else s.columns,
                s.visibleRows ++ (page.rows.drop s.rowOffset).take remaining, s.pageIndex + 1, 0⟩
              (inside_zero fun p hp => hrest p (List.mem_cons_of_mem _ hp))
          have hplace : pageSize -
              (s.visibleRows ++ (page.rows.drop s.rowOffset).take remaining).length =
                remaining - (page.rows.drop s.rowOffset).length := by
            rw [List.length_append, List.take_of_length_le hlong]
            omega
          dsimp only at hrows hindex hrest'
          rw [hplace, List.drop_zero] at hrows hrest'
          refine ⟨?_, k + 1, by omega, hinside', Nat.succ_le_succ hk, ?_⟩
          · rw [hrows, hleft, List.take_append, List.take_of_length_le hlong, List.append_assoc]
          · rw [List.drop_succ_cons, hrest', hleft, List.drop_append,
              List.drop_eq_nil_of_le hlong, List.nil_append]
      · rename_i hfull
        have hzero : pageSize - s.visibleRows.length = 0 := by omega
        rw [hzero]
        exact ⟨by simp, 0, rfl, hinside, Nat.zero_le _, rfl⟩

/-- A page is the first rows that are left, and the next one begins where the others do. -/
theorem readVisibleRows_spec {pages : List (StoredPage ρ)} {pageIndex rowOffset pageSize : Nat}
    (hpages : ∀ page ∈ pages, page.rows ≠ []) (hinside : Inside rowOffset (pages.drop pageIndex))
    {left : List ρ}
    (hleft : (rowsOf (pages.drop pageIndex)).drop rowOffset = left) :
    (readVisibleRows pages pageIndex rowOffset pageSize).2.1 = left.take pageSize ∧
      match (readVisibleRows pages pageIndex rowOffset pageSize).2.2 with
      | none => left.drop pageSize = []
      | some (pageIndex', rowOffset') => pageIndex' < pages.length ∧
          Inside rowOffset' (pages.drop pageIndex') ∧
            (rowsOf (pages.drop pageIndex')).drop rowOffset' = left.drop pageSize := by
  obtain ⟨hrows, k, hk, hinside', hle, hdrop⟩ := @readLoop_spec ρ pageSize (pages.drop pageIndex)
    (fun p hp => hpages p (List.mem_of_mem_drop hp)) ⟨[], [], pageIndex, rowOffset⟩ hinside
  dsimp only [List.length_nil, List.nil_append, Nat.sub_zero] at hrows hk hdrop
  rw [List.length_drop] at hle
  rw [hleft] at hrows hdrop
  rw [List.drop_drop] at hinside' hdrop
  unfold readVisibleRows
  dsimp only
  split
  · rename_i hend
    refine ⟨hrows, ?_⟩
    dsimp only
    rw [← hdrop, @List.drop_eq_nil_of_le _ pages (pageIndex + k) (by omega)]
    simp [rowsOf]
  · rename_i hend
    refine ⟨hrows, Nat.not_le.mp hend, ?_, ?_⟩
    · rw [hk]
      exact hinside'
    · rw [hk]
      exact hdrop

end

/-! ## Following the cursor -/

section

variable {ρ : Type} (rt : CursorRuntime) (secret : String)

/-- A stored result that can be read for as long as it is: no stored page is empty, the pages that
are read have a size that the code keeps, and the retention has not passed at any call. -/
structure Readable (run : ResultRun ρ) (now : Nat → Int) (pageSize : Nat) : Prop where
  nonempty : ∀ page ∈ run.pages, page.rows ≠ []
  sized : run.resultPageSize = some (pageSize : Int) ∧ 1 ≤ pageSize ∧ pageSize ≤ 1000
  kept : ∃ text expiry, run.retentionExpiresAt = some text ∧ rt.fromisoformat text = some expiry ∧
    ∀ k, now k < expiry

/-- The pages that are got by following the cursor, from call `k` on. -/
inductive Follows (run : ResultRun ρ) (now : Nat → Int) :
    Nat → Option Chars → List (ResultPageView ρ) → Prop
  | last {k : Nat} {cursor : Option Chars} {view : ResultPageView ρ} :
      getResultPage rt secret (now k) run cursor = .ok view → view.nextCursor = none →
        Follows run now k cursor [view]
  | more {k : Nat} {cursor : Option Chars} {view : ResultPageView ρ} {next : Chars}
      {views : List (ResultPageView ρ)} :
      getResultPage rt secret (now k) run cursor = .ok view → view.nextCursor = some next →
        Follows run now (k + 1) (some next) views → Follows run now k cursor (view :: views)

/-- The `k`-th cursor: it is read as the place where `left` begins. -/
def Stands (run : ResultRun ρ) (expiry : Int) (k : Nat) (cursor : Option Chars) (left : List ρ) :
    Prop :=
  ∃ pageIndex rowOffset : Nat,
    (∀ now, now < expiry → decodeCursorPosition rt secret now run.runId run.retentionExpiresAt
      cursor = .ok ⟨pageIndex, rowOffset, k⟩) ∧
    pageIndex < run.pages.length ∧ Inside rowOffset (run.pages.drop pageIndex) ∧
    (rowsOf (run.pages.drop pageIndex)).drop rowOffset = left

/-- There is a next cursor where rows are left after the page, and it is read as the place where
they begin. -/
def NextRight (run : ResultRun ρ) (expiry : Int) (pageSize k : Nat) (left : List ρ) :
    Option Chars → Prop
  | none => left.drop pageSize = []
  | some cursor => left.drop pageSize ≠ [] ∧
      Stands rt secret run expiry (k + 1) (some cursor) (left.drop pageSize)

/-- What one page is, of the rows that are left when it begins. -/
structure PageRight (run : ResultRun ρ) (expiry : Int) (pageSize k : Nat) (left : List ρ)
    (view : ResultPageView ρ) : Prop where
  rows : view.rows = left.take pageSize
  number : view.pageNumber = k + 1
  start : view.rowStart = k * pageSize + 1
  stop : view.rowEnd = k * pageSize + view.rows.length
  next : NextRight rt secret run expiry pageSize k left view.nextCursor

end

section

variable {ρ : Type} {rt : CursorRuntime} {secret : String} {run : ResultRun ρ} {now : Nat → Int}
  {pageSize : Nat} {expiry : Int} {k : Nat} {cursor : Option Chars} {left : List ρ}

theorem normalizedResultPageSize_eq (h : 1 ≤ pageSize ∧ pageSize ≤ 1000) :
    normalizedResultPageSize (some (pageSize : Int)) = pageSize := by
  unfold normalizedResultPageSize
  rw [Option.getD_some, if_neg (by omega)]
  omega

theorem requireRetention_ok {text : String} {now : Int}
    (hretention : run.retentionExpiresAt = some text)
    (hexpiry : rt.fromisoformat text = some expiry) (hnow : now < expiry) :
    requireRetention rt now run.retentionExpiresAt = .ok () := by
  have hne : text ≠ "" := by
    rintro rfl
    exact nomatch rt.fromisoformat_empty.symm.trans hexpiry
  unfold requireRetention
  rw [hretention, Option.bind_some, if_neg hne, hexpiry]
  exact rejectIf_eq_ok.mpr (Int.not_le.mpr hnow)

/-- A call with a cursor gives the page that begins there. -/
theorem getResultPage_right {text : String} {now : Int}
    (hnonempty : ∀ page ∈ run.pages, page.rows ≠ [])
    (hsized : run.resultPageSize = some (pageSize : Int) ∧ 1 ≤ pageSize ∧ pageSize ≤ 1000)
    (hretention : run.retentionExpiresAt = some text)
    (hexpiry : rt.fromisoformat text = some expiry) (hnow : now < expiry)
    (hstands : Stands rt secret run expiry k cursor left) :
    ∃ view, getResultPage rt secret now run cursor = .ok view ∧
      PageRight rt secret run expiry pageSize k left view := by
  obtain ⟨pageIndex, rowOffset, hdecode, hindex, hinside, hleft⟩ := hstands
  have hsize : normalizedResultPageSize run.resultPageSize = pageSize := by
    rw [hsized.1, normalizedResultPageSize_eq hsized.2]
  have hne : text ≠ "" := by
    rintro rfl
    exact nomatch rt.fromisoformat_empty.symm.trans hexpiry
  have hleftNe : left ≠ [] := by
    rw [← hleft, ne_eq, left_eq_nil hinside]
    exact List.ne_nil_of_length_pos (by rw [List.length_drop]; omega)
  obtain ⟨hrows, hnext⟩ := @readVisibleRows_spec ρ run.pages pageIndex rowOffset pageSize hnonempty
    hinside left hleft
  have hvisible : left.take pageSize ≠ [] := by
    intro hnil
    rcases List.take_eq_nil_iff.mp hnil with hzero | hnil
    · omega
    · exact hleftNe hnil
  generalize hread : readVisibleRows run.pages pageIndex rowOffset pageSize = result at hrows hnext
  obtain ⟨columns, visibleRows, nextPosition⟩ := result
  dsimp only at hrows hnext
  subst hrows
  -- The next cursor is made where rows are left.
  have hcursor : ∃ next, nextCursor rt secret run k nextPosition = .ok next ∧
      NextRight rt secret run expiry pageSize k left next := by
    cases nextPosition with
    | none => exact ⟨none, rfl, hnext⟩
    | some position =>
        obtain ⟨pageIndex', rowOffset'⟩ := position
        obtain ⟨hindex', hinside', hleft'⟩ := hnext
        have hencode : encodeCursor rt secret pageIndex' run.runId (some text) rowOffset'
            ((k : Int) + 1) = .ok (CursorFields.cursor rt secret
              ⟨text, pageIndex', (k : Int) + 1, rowOffset', run.runId⟩) := by
          refine if_neg ?_
          rintro (h | h | h | h)
          · omega
          · omega
          · omega
          · exact hne h
        refine ⟨some (CursorFields.cursor rt secret
          ⟨text, pageIndex', (k : Int) + 1, rowOffset', run.runId⟩), ?_, ?_, pageIndex', rowOffset',
          fun now hnow => ?_, hindex', hinside', hleft'⟩
        · unfold nextCursor
          rw [hretention]
          exact congrArg (Except.map some) hencode
        · rw [← hleft', ne_eq, left_eq_nil hinside']
          exact List.ne_nil_of_length_pos (by rw [List.length_drop]; omega)
        · rw [hretention]
          exact @decode_encode rt secret run.runId text ⟨pageIndex', rowOffset', (k + 1 : Nat)⟩ _ now
            expiry hencode hexpiry hnow
  obtain ⟨next, hnextOk, hnextRight⟩ := hcursor
  have hview : getResultPage rt secret now run cursor = .ok
      { columns
        nextCursor := next
        pageSize
        pageNumber := k + 1
        rowEnd := k * pageSize + 1 + (left.take pageSize).length - 1
        rowStart := k * pageSize + 1
        rows := left.take pageSize
        totalPages := run.totalRows.map fun total => (total + pageSize - 1) / pageSize
        totalRows := run.totalRows } := by
    unfold getResultPage
    refine bind_eq_ok.mpr ⟨(), requireRetention_ok hretention hexpiry hnow,
      bind_eq_ok.mpr ⟨_, hdecode now hnow, bind_eq_ok.mpr ⟨(),
        rejectIf_eq_ok.mpr (Nat.not_le.mpr hindex), ?_⟩⟩⟩
    dsimp only
    rw [hsize, Int.toNat_natCast, Int.toNat_natCast, Int.toNat_natCast, hread]
    dsimp only
    rw [if_neg hvisible, if_neg hvisible]
    exact bind_eq_ok.mpr ⟨next, hnextOk, rfl⟩
  exact ⟨_, hview, rfl, rfl, rfl, by dsimp only; omega, hnextRight⟩

/-! ## All pages -/

/-- The pages that are followed from call `k` on are the rows that are left then, in pieces of the
page size. -/
structure PiecesOf (pageSize k : Nat) (left : List ρ) (views : List (ResultPageView ρ)) : Prop where
  rows : views.flatMap ResultPageView.rows = left
  page : ∀ j view, views[j]? = some view → view.rows ≠ [] ∧ view.pageNumber = ((k + j : Nat) : Int) + 1 ∧
    view.rowStart = ((k + j : Nat) : Int) * pageSize + 1 ∧
    view.rowEnd = ((k + j : Nat) : Int) * pageSize + view.rows.length
  full : ∀ j view, views[j]? = some view → j + 1 < views.length → view.rows.length = pageSize

theorem stands_ne_nil (h : Stands rt secret run expiry k cursor left) : left ≠ [] := by
  obtain ⟨pageIndex, rowOffset, -, hindex, hinside, rfl⟩ := h
  rw [ne_eq, left_eq_nil hinside]
  exact List.ne_nil_of_length_pos (by rw [List.length_drop]; omega)

theorem PageRight.ne_nil {view : ResultPageView ρ}
    (h : PageRight rt secret run expiry pageSize k left view) (hsize : 1 ≤ pageSize)
    (hleft : left ≠ []) : view.rows ≠ [] := by
  rw [h.rows]
  intro hnil
  rcases List.take_eq_nil_iff.mp hnil with hzero | hnil
  · omega
  · exact hleft hnil

section

variable {text : String} (hnonempty : ∀ page ∈ run.pages, page.rows ≠ [])
  (hsized : run.resultPageSize = some (pageSize : Int) ∧ 1 ≤ pageSize ∧ pageSize ≤ 1000)
  (hretention : run.retentionExpiresAt = some text)
  (hexpiry : rt.fromisoformat text = some expiry) (hnow : ∀ k, now k < expiry)

include hnonempty hsized hretention hexpiry hnow

theorem follows_pieces {views : List (ResultPageView ρ)}
    (h : Follows rt secret run now k cursor views)
    (hstands : Stands rt secret run expiry k cursor left) : PiecesOf pageSize k left views := by
  induction h generalizing left with
  | @last k cursor view hview hnext =>
      obtain ⟨view', hview', hright⟩ := getResultPage_right hnonempty hsized hretention hexpiry
        (hnow k) hstands
      cases Except.ok.inj (hview.symm.trans hview')
      have hend := hright.next
      rw [hnext] at hend
      have hall : view.rows = left := by
        rw [hright.rows]
        exact List.take_of_length_le (List.drop_eq_nil_iff.mp hend)
      refine ⟨by simp [hall], ?_, fun j _ _ hj => ?_⟩
      · rintro (_ | j) view' hj
        · cases Option.some.inj hj
          exact ⟨hright.ne_nil hsized.2.1 (stands_ne_nil hstands), hright.number, hright.start,
            hright.stop⟩
        · exact nomatch hj
      · rw [List.length_singleton] at hj
        omega
  | @more k cursor view next views hview hnext _ ih =>
      obtain ⟨view', hview', hright⟩ := getResultPage_right hnonempty hsized hretention hexpiry
        (hnow k) hstands
      cases Except.ok.inj (hview.symm.trans hview')
      have hmore := hright.next
      rw [hnext] at hmore
      obtain ⟨hleft, hstands'⟩ := hmore
      have hpieces := ih hstands'
      refine ⟨?_, ?_, ?_⟩
      · rw [List.flatMap_cons, hpieces.rows, hright.rows, List.take_append_drop]
      · rintro (_ | j) view' hj
        · cases Option.some.inj hj
          exact ⟨hright.ne_nil hsized.2.1 (stands_ne_nil hstands), hright.number, hright.start,
            hright.stop⟩
        · have hpage := hpieces.page j view' hj
          rwa [(by omega : k + (j + 1) = k + 1 + j)]
      · rintro (_ | j) view' hj hlt
        · cases Option.some.inj hj
          rw [hright.rows, List.length_take]
          have : pageSize < left.length := by
            rw [ne_eq, List.drop_eq_nil_iff] at hleft
            omega
          omega
        · exact hpieces.full j view' hj (Nat.lt_of_succ_lt_succ hlt)

/-- Following the cursor comes to an end: every page takes rows from those that are left. -/
theorem exists_follows (hstands : Stands rt secret run expiry k cursor left) :
    ∃ views, Follows rt secret run now k cursor views := by
  induction hlength : left.length using Nat.strong_induction_on generalizing k cursor left with
  | _ n ih =>
      obtain ⟨view, hview, hright⟩ := getResultPage_right hnonempty hsized hretention hexpiry
        (hnow k) hstands
      cases hnext : view.nextCursor with
      | none => exact ⟨[view], .last hview hnext⟩
      | some next =>
          have hmore := hright.next
          rw [hnext] at hmore
          have hpos := List.length_pos_iff.mpr (stands_ne_nil hstands)
          obtain ⟨views, hviews⟩ := ih (left.drop pageSize).length
            (by rw [List.length_drop]; omega) hmore.2 rfl
          exact ⟨view :: views, .more hview hnext hviews⟩

end

/-- The first call has no cursor. -/
theorem stands_first (hnonempty : ∀ page ∈ run.pages, page.rows ≠ []) (hpages : run.pages ≠ []) :
    Stands rt secret run expiry 0 none (rowsOf run.pages) :=
  ⟨0, 0, fun _ _ => rfl, List.length_pos_iff.mpr hpages, inside_zero hnonempty, rfl⟩

theorem PiecesOf.length_take {views : List (ResultPageView ρ)}
    (h : PiecesOf pageSize k left views) {j : Nat} (hj : j < views.length) :
    ((views.take j).flatMap ResultPageView.rows).length = j * pageSize := by
  induction j with
  | zero => simp
  | succ j ih =>
      have hlt : j < views.length := by omega
      rw [List.take_succ_eq_append_getElem hlt, List.flatMap_append, List.length_append, ih hlt,
        List.flatMap_singleton, h.full j _ (List.getElem?_eq_getElem hlt) hj]
      exact (Nat.succ_mul j pageSize).symm

end

section

variable {ρ : Type} (rt : CursorRuntime) (secret : String)

/-- The `k`-th page, among all of them: its number, the positions of its first and its last row in
the whole result, and its size. -/
structure ViewRight (pageSize : Nat) (views : List (ResultPageView ρ)) (k : Nat)
    (view : ResultPageView ρ) : Prop where
  number : view.pageNumber = k + 1
  nonempty : view.rows ≠ []
  start : view.rowStart = ((views.take k).flatMap ResultPageView.rows).length + 1
  stop : view.rowEnd = ((views.take (k + 1)).flatMap ResultPageView.rows).length
  full : k + 1 < views.length → view.rows.length = pageSize

/-- Following the cursor from the first page on ends, and the pages are the result. -/
structure PagedRight (run : ResultRun ρ) (now : Nat → Int) (pageSize : Nat) : Prop where
  ends : run.pages ≠ [] → ∃ views, Follows rt secret run now 0 none views
  /-- Without a stored page there is no first page either. -/
  missing : run.pages = [] → ∃ e, getResultPage rt secret (now 0) run none = .error e
  rows : ∀ views, Follows rt secret run now 0 none views →
    views.flatMap ResultPageView.rows = rowsOf run.pages
  views : ∀ views, Follows rt secret run now 0 none views → ∀ k view, views[k]? = some view →
    ViewRight pageSize views k view

/-- A cursor that was not made for this run, this expiry and this secret is refused, whatever the
stored pages are. -/
def Guards (run : ResultRun ρ) : Prop :=
  ∀ cursor, Unforged rt secret cursor →
    ¬ Produced rt secret run.runId run.retentionExpiresAt cursor →
      ∀ now, ∃ e, ∀ pages : List (StoredPage ρ),
        getResultPage rt secret now { run with pages := pages } (some cursor) = .error e

end

section

variable {ρ : Type} {rt : CursorRuntime} {secret : String} {run : ResultRun ρ} {now : Nat → Int}
  {pageSize : Nat}

theorem guards (run : ResultRun ρ) : Guards rt secret run := by
  intro cursor hunforged hnot now
  cases hdecode : decodeCursorPosition rt secret now run.runId run.retentionExpiresAt
      (some cursor) with
  | ok position => exact absurd (decoded_was_produced hunforged hdecode) hnot
  | error e =>
      cases hretention : requireRetention rt now run.retentionExpiresAt with
      | error e' => exact ⟨e', fun pages => bind_of_error hretention⟩
      | ok _ =>
          refine ⟨e, fun pages => ?_⟩
          unfold getResultPage
          rw [hretention]
          exact @bind_of_error _ _ _ (decodeCursorPosition rt secret now run.runId
            run.retentionExpiresAt (some cursor)) _ e hdecode

/-- Result pages are the result in pieces, and only the service's own cursors are read. -/
theorem result_paging (h : Readable rt run now pageSize) :
    PagedRight rt secret run now pageSize ∧ Guards rt secret run := by
  obtain ⟨text, expiry, hretention, hexpiry, hnow⟩ := h.kept
  have hpieces : run.pages ≠ [] → ∀ views, Follows rt secret run now 0 none views →
      PiecesOf pageSize 0 (rowsOf run.pages) views := fun hpages views hviews =>
    follows_pieces h.nonempty h.sized hretention hexpiry hnow hviews (stands_first h.nonempty hpages)
  have hmissing : run.pages = [] → ∃ e, getResultPage rt secret (now 0) run none = .error e := by
    intro hpages
    refine ⟨if run.collecting then .notReady else .notFound, ?_⟩
    unfold getResultPage
    rw [requireRetention_ok hretention hexpiry (hnow 0), hpages]
    rfl
  have hnone : ∀ {views}, Follows rt secret run now 0 none views → run.pages ≠ [] := by
    intro views hviews hpages
    obtain ⟨e, he⟩ := hmissing hpages
    cases hviews with
    | last hview _ => exact nomatch he.symm.trans hview
    | more hview _ _ => exact nomatch he.symm.trans hview
  refine ⟨⟨fun hpages => ?_, hmissing, fun views hviews => ?_, fun views hviews k view hk => ?_⟩,
    guards run⟩
  · exact exists_follows h.nonempty h.sized hretention hexpiry hnow (stands_first h.nonempty hpages)
  · exact (hpieces (hnone hviews) views hviews).rows
  · have hright := hpieces (hnone hviews) views hviews
    obtain ⟨hne, hnumber, hstart, hstop⟩ := hright.page k view hk
    rw [Nat.zero_add] at hnumber hstart hstop
    obtain ⟨hlt, hview⟩ := List.getElem?_eq_some_iff.mp hk
    have hbefore := hright.length_take hlt
    refine ⟨hnumber, hne, ?_, ?_, hright.full k view hk⟩
    · rw [hstart, hbefore, Int.natCast_mul]
    · rw [hstop, List.take_succ_eq_append_getElem hlt, List.flatMap_append, List.length_append,
        hbefore, List.flatMap_singleton, hview, Int.natCast_add, Int.natCast_mul]

end

/-! ## Three stored pages, two rows a page -/

open Classical in
/-- Libraries of which `json.loads` reads what was written for a cursor, and no more. -/
noncomputable def plainCursorRuntime : CursorRuntime where
  sign := fun _ text => text.reverse
  loads := fun text =>
    if h : ∃ fields : CursorFields, fields.text = text then some h.choose.document else none
  int
    | .int n => some n
    | _ => none
  str
    | .str s => s
    | _ => ""
  fromisoformat := fun text => if text = "2026-08-01T00:00:00Z" then some 1785542400 else none
  fromisoformat_empty := if_neg (by decide)
  loads_text := fun fields => by
    have h : ∃ other : CursorFields, other.text = fields.text := ⟨fields, rfl⟩
    rw [dif_pos h]
    exact congrArg some (Json.dumps_injective true h.choose_spec)
  int_int := fun _ => rfl
  str_str := fun _ => rfl

def sixRows : ResultRun Nat where
  runId := "run-1"
  pages := [⟨["n"], [1, 2, 3]⟩, ⟨["n"], [4]⟩, ⟨["n"], [5, 6]⟩]
  retentionExpiresAt := some "2026-08-01T00:00:00Z"
  resultPageSize := some 2
  totalRows := some 6
  collecting := false

example : (readVisibleRows sixRows.pages 0 2 2).2 = ([3, 4], some (2, 0)) := by decide

theorem result_paging_sixRows :
    PagedRight plainCursorRuntime "secret" sixRows (fun _ => 0) 2 ∧
      Guards plainCursorRuntime "secret" sixRows := by
  refine result_paging ⟨?_, ⟨rfl, by decide, by decide⟩, ?_⟩
  · decide
  · exact ⟨_, 1785542400, rfl, by simp [plainCursorRuntime], fun _ => by decide⟩

end AskLake.Trino

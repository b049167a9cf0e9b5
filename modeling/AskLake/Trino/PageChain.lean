/-
# `AskLake.Trino.PageChain` — the pages of a query and the pages that are stored

The next URIs of a query lead from page to page.  `chainPages n` are the pages with rows
among the first page and the next `n`, each with the URI that it came from:

    InOrder     what is stored is `chainPages n`, for some `n`
    LoneEmpty   the query has no rows, and one empty page is stored
    Complete    all of the query is stored

A page is inserted by a collector that has come to its URI for the first time that it may:
all pages with rows before it are stored, and it is not.  So what is stored grows by the
next page of the chain, wherever the collector thinks it is.
-/
import AskLake.Lib.Trail
import AskLake.Trino.Collector

namespace AskLake.Trino

open AskLake.Lib AskLake.Python

/-! ## The chain -/

section
variable {ρ : Type} (fetch : Text → TrinoClientPage ρ) (first : TrinoClientPage ρ)

/-- The link to the next page. -/
def nextPage (uri : Text) : Option Text := (fetch uri).nextUri

/-- A page with rows, and where it came from. -/
def nonEmptyPage (uri : Text) : Option (Option Text × List ρ) :=
  if (fetch uri).rows.isEmpty then none else some (some uri, (fetch uri).rows)

/-- The URI after `n` pages from the first one's next. -/
def chainUri (n : Nat) : Option Text := trail (nextPage fetch) first.nextUri n

/-- The pages with rows among the first page and `n` more. -/
def chainPages (n : Nat) : List (Option Text × List ρ) :=
  (if first.rows.isEmpty then [] else [(none, first.rows)]) ++
    marks (nextPage fetch) first.nextUri (nonEmptyPage fetch) n

/-- The rows of these pages. -/
def rowsBefore (n : Nat) : Nat := ((chainPages fetch first n).map fun page => page.2.length).sum

end

/-! ## What is stored -/

/-- A stored page holds the rows of a page of the query. -/
structure Holds {ρ : Type} (s : RunStore ρ) (page : ResultPage) (content : Option Text × List ρ) :
    Prop where
  source : page.sourceNextUri = content.1
  rows : s.objects page.objectKey = some (page.columns, content.2)
  count : page.rowCount = content.2.length

section
variable {ρ : Type} (fetch : Text → TrinoClientPage ρ) (first : TrinoClientPage ρ)
  (s : RunStore ρ)

/-- The stored pages are the pages with rows of a part of the chain. -/
def InOrder : Prop := ∃ n, List.Forall₂ (Holds s) s.pages (chainPages fetch first n)

/-- The empty page that a query without rows ends with. -/
inductive LastEmpty : Option Text → Prop
  | first (h : first.nextUri = none) : LastEmpty none
  | next {n : Nat} {uri : Text} (h : chainUri fetch first n = some uri)
      (hlast : nextPage fetch uri = none) : LastEmpty (some uri)

/-- One empty page is stored, of a query without rows. -/
def LoneEmpty : Prop := ∃ n source, chainUri fetch first n = none ∧
  chainPages fetch first n = [] ∧ LastEmpty fetch first source ∧
  List.Forall₂ (Holds s) s.pages [(source, [])]

/-- All of the query is stored. -/
def Complete : Prop :=
  (∃ n, chainUri fetch first n = none ∧ chainPages fetch first n ≠ [] ∧
    List.Forall₂ (Holds s) s.pages (chainPages fetch first n)) ∨ LoneEmpty fetch first s

/-- Every page with rows before the `n`-th is stored. -/
def StoredBefore (n : Nat) : Prop := ∀ j < n, ∀ uri, chainUri fetch first j = some uri →
  (fetch uri).rows ≠ [] → s.hasSource uri = true

end

section
variable {ρ : Type} {fetch : Text → TrinoClientPage ρ} {first : TrinoClientPage ρ}
  {s : RunStore ρ} {m n i : Nat} {uri : Text} {contents : List (Option Text × List ρ)}

theorem chainPages_succ : chainPages fetch first (n + 1) = chainPages fetch first n ++
    ((chainUri fetch first n).bind (nonEmptyPage fetch)).toList := by
  rw [chainPages, marks_succ, ← List.append_assoc]
  rfl

theorem nonEmptyPage_of (h : (fetch uri).rows ≠ []) :
    nonEmptyPage fetch uri = some (some uri, (fetch uri).rows) := by
  rw [nonEmptyPage, if_neg (by simpa using h)]

theorem nonEmptyPage_empty (h : (fetch uri).rows = []) : nonEmptyPage fetch uri = none := by
  rw [nonEmptyPage, h]
  rfl

/-- Where a page with rows of the chain came from. -/
theorem mem_chainPages {content : Option Text × List ρ} (h : content ∈ chainPages fetch first n)
    (hsource : content.1 = some uri) : ∃ j < n, chainUri fetch first j = some uri := by
  rcases List.mem_append.mp h with hfirst | hmark
  · split at hfirst
    · exact nomatch hfirst
    · rw [List.mem_singleton.mp hfirst] at hsource
      exact nomatch hsource
  · obtain ⟨j, hj, v, hv, hkeep⟩ := mem_marks.mp hmark
    rw [nonEmptyPage] at hkeep
    split at hkeep
    · exact nomatch hkeep
    · obtain rfl := Option.some.inj hkeep
      obtain rfl : v = uri := Option.some.inj hsource
      exact ⟨j, hj, hv⟩

theorem mem_chainPages_of (hj : m < n) (huri : chainUri fetch first m = some uri)
    (hrows : (fetch uri).rows ≠ []) :
    (some uri, (fetch uri).rows) ∈ chainPages fetch first n :=
  List.mem_append_right _ (mem_marks.mpr ⟨m, hj, uri, huri, nonEmptyPage_of hrows⟩)

/-- Every page of the chain has rows. -/
theorem rows_of_mem_chainPages {content : Option Text × List ρ}
    (h : content ∈ chainPages fetch first n) : content.2 ≠ [] := by
  rcases List.mem_append.mp h with hfirst | hmark
  · split at hfirst
    · exact nomatch hfirst
    · next hrows =>
        rw [List.mem_singleton.mp hfirst]
        simpa using hrows
  · obtain ⟨j, hj, v, hv, hkeep⟩ := mem_marks.mp hmark
    rw [nonEmptyPage] at hkeep
    split at hkeep
    · exact nomatch hkeep
    · next hrows =>
        obtain rfl := Option.some.inj hkeep
        simpa using hrows

theorem rowsBefore_mono (hle : m ≤ n) : rowsBefore fetch first m ≤ rowsBefore fetch first n := by
  have hprefix : chainPages fetch first m <+: chainPages fetch first n :=
    (List.prefix_append_right_inj _).mpr (marks_initial hle)
  obtain ⟨rest, hrest⟩ := hprefix
  rw [rowsBefore, rowsBefore, ← hrest, List.map_append, List.sum_append]
  exact Nat.le_add_right _ _

/-! ## The stored pages, read off -/

/-- A source is stored if it is among the contents. -/
theorem hasSource_iff (h : List.Forall₂ (Holds s) s.pages contents) :
    s.hasSource uri = true ↔ ∃ content ∈ contents, content.1 = some uri := by
  rw [RunStore.hasSource]
  generalize s.pages = pages at h
  induction h with
  | nil => simp
  | cons hholds _ ih =>
      rw [List.any_cons, Bool.or_eq_true, ih, decide_eq_true_eq, hholds.source]
      simp [List.mem_cons]

/-- The rows that are counted are those of the contents. -/
theorem totalResultRows_eq (h : List.Forall₂ (Holds s) s.pages contents) :
    s.totalResultRows = (contents.map fun content => content.2.length).sum := by
  rw [RunStore.totalResultRows]
  generalize s.pages = pages at h
  induction h with
  | nil => rfl
  | cons hholds _ ih => rw [List.map_cons, List.map_cons, List.sum_cons, List.sum_cons, ih,
      hholds.count]

theorem StoredBefore.mono (h : StoredBefore fetch first s n) (hle : m ≤ n) :
    StoredBefore fetch first s m :=
  fun j hj => h j (Nat.lt_of_lt_of_le hj hle)

/-- What is stored goes as far as what is known to be stored. -/
theorem chainPages_eq_of_stored (hfirst : First (nextPage fetch) first.nextUri i uri)
    (hstored : StoredBefore fetch first s m) (hm : m ≤ i + 1) (hle : n ≤ m)
    (hpages : List.Forall₂ (Holds s) s.pages (chainPages fetch first n)) :
    chainPages fetch first m = chainPages fetch first n := by
  rw [chainPages, chainPages]
  congr 1
  refine marks_eq hle fun j hnj hjm v hv => ?_
  by_contra hkeep
  have hrows : (fetch v).rows ≠ [] := fun hempty => hkeep (nonEmptyPage_empty hempty)
  obtain ⟨content, hcontent, hsource⟩ := (hasSource_iff hpages).mp (hstored j hjm v hv hrows)
  obtain ⟨j', hj', hv'⟩ := mem_chainPages hcontent hsource
  have hsame := hfirst.injective (i := j') (j := j) (by omega) (by omega) (hv'.trans hv.symm)
  omega

/-- A query that goes on from a page has more than one empty page to it. -/
theorem LoneEmpty.rows_empty (h : LoneEmpty fetch first s)
    (huri : chainUri fetch first i = some uri) : (fetch uri).rows = [] := by
  obtain ⟨n, source, hend, hempty, -, -⟩ := h
  by_contra hrows
  have hlt : i < n := Nat.lt_of_not_le fun hle => by
    rw [chainUri, trail_none hend hle] at huri
    exact nomatch huri
  have hmem := mem_chainPages_of hlt huri hrows
  rw [hempty] at hmem
  exact nomatch hmem

theorem LoneEmpty.rowsBefore_eq (h : LoneEmpty fetch first s) (m : Nat) :
    rowsBefore fetch first m = 0 := by
  obtain ⟨n, source, hend, hempty, -, -⟩ := h
  have hpages : chainPages fetch first m = [] := by
    rcases Nat.le_total m n with hle | hle
    · have hprefix : chainPages fetch first m <+: chainPages fetch first n :=
        (List.prefix_append_right_inj _).mpr (marks_initial hle)
      rw [hempty] at hprefix
      exact List.prefix_nil.mp hprefix
    · rw [chainPages, marks_ended hend hle]
      exact hempty
  rw [rowsBefore, hpages]
  rfl

/-- What is known to be stored is counted. -/
theorem rowsBefore_le_total (hshape : InOrder fetch first s ∨ LoneEmpty fetch first s)
    (hfirst : First (nextPage fetch) first.nextUri i uri)
    (hstored : StoredBefore fetch first s m) (hm : m ≤ i + 1) :
    rowsBefore fetch first m ≤ s.totalResultRows := by
  rcases hshape with ⟨n, hpages⟩ | hlone
  · rw [totalResultRows_eq hpages]
    rcases Nat.le_total m n with hle | hle
    · exact rowsBefore_mono hle
    · rw [rowsBefore, chainPages_eq_of_stored hfirst hstored hm hle hpages]
  · rw [hlone.rowsBefore_eq m]
    exact Nat.zero_le _

end

/-! ## The same pages -/

section
variable {ρ : Type} {fetch : Text → TrinoClientPage ρ} {first : TrinoClientPage ρ}
  {s s' : RunStore ρ} {contents : List (Option Text × List ρ)}

/-- Two stores with the same pages, whose objects are the same too. -/
structure SamePages (s s' : RunStore ρ) : Prop where
  pages : s'.pages = s.pages
  objects : ∀ page ∈ s.pages, s'.objects page.objectKey = s.objects page.objectKey

theorem SamePages.forall₂ (h : SamePages s s') (hpages : List.Forall₂ (Holds s) s.pages contents) :
    List.Forall₂ (Holds s') s'.pages contents := by
  rw [h.pages]
  refine (List.forall₂_iff_zip.mpr ⟨hpages.length_eq, fun {page content} hmem => ?_⟩)
  have hholds := (List.forall₂_iff_zip.mp hpages).2 hmem
  have hsame := h.objects page (List.of_mem_zip hmem).1
  exact ⟨hholds.source, hsame.trans hholds.rows, hholds.count⟩

theorem SamePages.hasSource (h : SamePages s s') (uri : Text) :
    s'.hasSource uri = s.hasSource uri := by
  rw [RunStore.hasSource, RunStore.hasSource, h.pages]

theorem SamePages.totalResultRows (h : SamePages s s') :
    s'.totalResultRows = s.totalResultRows := by
  rw [RunStore.totalResultRows, RunStore.totalResultRows, h.pages]

theorem SamePages.inOrder (h : SamePages s s') (hshape : InOrder fetch first s) :
    InOrder fetch first s' := by
  obtain ⟨n, hpages⟩ := hshape
  exact ⟨n, h.forall₂ hpages⟩

theorem SamePages.loneEmpty (h : SamePages s s') (hlone : LoneEmpty fetch first s) :
    LoneEmpty fetch first s' := by
  obtain ⟨n, source, hend, hempty, hlast, hpages⟩ := hlone
  exact ⟨n, source, hend, hempty, hlast, h.forall₂ hpages⟩

theorem SamePages.complete (h : SamePages s s') (hcomplete : Complete fetch first s) :
    Complete fetch first s' := by
  rcases hcomplete with ⟨n, hend, hne, hpages⟩ | hlone
  · exact Or.inl ⟨n, hend, hne, h.forall₂ hpages⟩
  · exact Or.inr (h.loneEmpty hlone)

end

/-! ## A page is inserted -/

section
variable {ρ : Type} {fetch : Text → TrinoClientPage ρ} {first : TrinoClientPage ρ}
  {s : RunStore ρ} {i : Nat} {uri : Text} {page : ResultPage}

/-- The store with one more page. -/
def RunStore.addPage (s : RunStore ρ) (page : ResultPage) : RunStore ρ :=
  { s with pages := s.pages ++ [page] }

theorem Holds.addPage {old : ResultPage} {content : Option Text × List ρ}
    (h : Holds s old content) : Holds (s.addPage page) old content := ⟨h.source, h.rows, h.count⟩

theorem forall₂_addPage {contents : List (Option Text × List ρ)} {content : Option Text × List ρ}
    (h : List.Forall₂ (Holds s) s.pages contents) (hpage : Holds s page content) :
    List.Forall₂ (Holds (s.addPage page)) (s.addPage page).pages (contents ++ [content]) :=
  List.rel_append (h.imp fun _ _ hholds => hholds.addPage)
    (List.Forall₂.cons hpage.addPage List.Forall₂.nil)

theorem hasSource_addPage (v : Text) : (s.addPage page).hasSource v =
    (s.hasSource v || decide (page.sourceNextUri = some v)) := by
  simp [RunStore.hasSource, RunStore.addPage]

/-- A page with rows is the next one of the chain. -/
theorem InOrder.insert (hshape : InOrder fetch first s ∨ LoneEmpty fetch first s)
    (hfirst : First (nextPage fetch) first.nextUri i uri) (hstored : StoredBefore fetch first s i)
    (hnew : s.hasSource uri = false) (hrows : (fetch uri).rows ≠ [])
    (hpage : Holds s page (some uri, (fetch uri).rows)) :
    InOrder fetch first (s.addPage page) := by
  have huri : chainUri fetch first i = some uri := hfirst.at_n
  rcases hshape with ⟨n, hpages⟩ | hlone
  · have hle : n ≤ i := Nat.le_of_not_lt fun hlt => by
      have hmem := mem_chainPages_of hlt huri hrows
      rw [(hasSource_iff hpages).mpr ⟨_, hmem, rfl⟩] at hnew
      exact nomatch hnew
    have hsame := chainPages_eq_of_stored hfirst hstored (Nat.le_succ i) hle hpages
    refine ⟨i + 1, ?_⟩
    rw [chainPages_succ, huri, Option.bind_some, nonEmptyPage_of hrows, Option.toList_some, hsame]
    exact forall₂_addPage hpages hpage
  · exact absurd (hlone.rows_empty huri) hrows

/-- An empty page is stored where a query without rows ends. -/
theorem LoneEmpty.insert (hshape : InOrder fetch first s ∨ LoneEmpty fetch first s)
    (hfirst : First (nextPage fetch) first.nextUri i uri) (hstored : StoredBefore fetch first s i)
    (hnone : s.pages = []) (hrows : (fetch uri).rows = []) (hlast : nextPage fetch uri = none)
    (hpage : Holds s page (some uri, (fetch uri).rows)) :
    LoneEmpty fetch first (s.addPage page) := by
  have huri : chainUri fetch first i = some uri := hfirst.at_n
  rcases hshape with ⟨n, hpages⟩ | ⟨n, source, -, -, -, hpages⟩
  · have hempty : chainPages fetch first n = [] := by
      rw [hnone] at hpages
      exact List.forall₂_nil_left_iff.mp hpages
    have hi : chainPages fetch first i = [] := by
      rcases Nat.le_total n i with hle | hle
      · rw [chainPages_eq_of_stored hfirst hstored (Nat.le_succ i) hle hpages, hempty]
      · have hprefix : chainPages fetch first i <+: chainPages fetch first n :=
          (List.prefix_append_right_inj _).mpr (marks_initial hle)
        rw [hempty] at hprefix
        exact List.prefix_nil.mp hprefix
    refine ⟨i + 1, some uri, ?_, ?_, .next huri hlast, ?_⟩
    · rw [chainUri, trail_succ_of huri, hlast]
    · rw [chainPages_succ, hi, huri, Option.bind_some, nonEmptyPage_empty hrows]
      rfl
    · rw [hrows] at hpage
      have hadd := forall₂_addPage hpages hpage
      rw [hempty] at hadd
      exact hadd
  · rw [hnone] at hpages
    exact nomatch hpages

/-! ## The end of the chain -/

/-- Where the chain has ended, what is known to be stored is all there is. -/
theorem complete_of_stored (hshape : InOrder fetch first s ∨ LoneEmpty fetch first s)
    (hfirst : First (nextPage fetch) first.nextUri i uri)
    (hstored : StoredBefore fetch first s (i + 1)) (hlast : nextPage fetch uri = none)
    (hsome : s.pages ≠ []) : Complete fetch first s := by
  have hend : chainUri fetch first (i + 1) = none := by
    rw [chainUri, trail_succ_of hfirst.at_n, hlast]
  rcases hshape with ⟨n, hpages⟩ | hlone
  · have hsame : chainPages fetch first (i + 1) = chainPages fetch first n := by
      rcases Nat.le_total n (i + 1) with hle | hle
      · exact chainPages_eq_of_stored hfirst hstored (Nat.le_refl _) hle hpages
      · rw [chainPages, chainPages, marks_ended hend hle]
    rw [← hsame] at hpages
    refine Or.inl ⟨i + 1, hend, ?_, hpages⟩
    intro hempty
    rw [hempty] at hpages
    exact hsome (List.forall₂_nil_right_iff.mp hpages)
  · exact Or.inr hlone

theorem total_le_of_ended (hshape : InOrder fetch first s ∨ LoneEmpty fetch first s) {n : Nat}
    (hend : chainUri fetch first n = none) : s.totalResultRows ≤ rowsBefore fetch first n := by
  rcases hshape with ⟨m, hpages⟩ | ⟨m, source, -, -, -, hpages⟩
  · rw [totalResultRows_eq hpages]
    rcases Nat.le_total m n with hle | hle
    · exact rowsBefore_mono hle
    · rw [rowsBefore, chainPages, chainPages, marks_ended hend hle]
  · rw [totalResultRows_eq hpages]
    exact Nat.zero_le _

theorem Complete.pages_ne (h : Complete fetch first s) : s.pages ≠ [] := by
  intro hnone
  rcases h with ⟨n, -, hne, hpages⟩ | ⟨n, source, -, -, -, hpages⟩
  · rw [hnone] at hpages
    exact hne (List.forall₂_nil_left_iff.mp hpages)
  · rw [hnone] at hpages
    exact nomatch hpages

/-- All pages with rows are stored when everything is. -/
theorem Complete.hasSource (h : Complete fetch first s) (huri : chainUri fetch first i = some uri)
    (hrows : (fetch uri).rows ≠ []) : s.hasSource uri = true := by
  rcases h with ⟨n, hend, -, hpages⟩ | hlone
  · have hlt : i < n := Nat.lt_of_not_le fun hle => by
      rw [chainUri, trail_none hend hle] at huri
      exact nomatch huri
    exact (hasSource_iff hpages).mpr ⟨_, mem_chainPages_of hlt huri hrows, rfl⟩
  · exact absurd (hlone.rows_empty huri) hrows

/-- Where the last page is not stored, and some page is, there are rows. -/
theorem total_pos (hshape : InOrder fetch first s ∨ LoneEmpty fetch first s)
    (huri : chainUri fetch first i = some uri) (hlast : nextPage fetch uri = none)
    (hnew : s.hasSource uri = false) (hsome : s.pages ≠ []) : 0 < s.totalResultRows := by
  rcases hshape with ⟨n, hpages⟩ | ⟨n, source, -, -, hempty, hpages⟩
  · rw [totalResultRows_eq hpages]
    cases hcontents : chainPages fetch first n with
    | nil =>
        rw [hcontents] at hpages
        exact absurd (List.forall₂_nil_right_iff.mp hpages) hsome
    | cons content rest =>
        have hrows := rows_of_mem_chainPages (hcontents ▸ List.mem_cons_self)
        have hpos : 0 < content.2.length := List.length_pos_of_ne_nil hrows
        rw [List.map_cons, List.sum_cons]
        omega
  · cases hempty with
    | first hnone =>
        have hend : chainUri fetch first i = none := by
          refine trail_none (m := 0) ?_ (Nat.zero_le i)
          rw [trail_zero, hnone]
        rw [hend] at huri
        exact nomatch huri
    | next h hlast' =>
        obtain rfl := last_unique h huri hlast' hlast
        rw [(hasSource_iff hpages).mpr ⟨_, List.mem_singleton_self _, rfl⟩] at hnew
        exact nomatch hnew

end

end AskLake.Trino

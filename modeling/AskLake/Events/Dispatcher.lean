/-
# `AskLake.Events.Dispatcher` — polling the event log by its greatest id

An appended event takes its id from a sequence when it is inserted, and becomes
visible when its transaction commits, so that ids may become visible out of
order.  The dispatcher remembers one number, the greatest id it has passed to
the hub, and loads the unexpired events above it page by page:

    allocate   the next id, in an open transaction
    commit     all rows of a transaction become visible
    rollback   all rows of a transaction are gone, their ids are not reused
    tick       the clock moves
    page       one `_load_after` and the loop over its events

The writer's own checks and its search for an earlier event are left out: where
they stop an append no id is taken, and where a unique key stops it the id is
lost as in a rollback.  So are the deletions of `cleanup_expired`, which no
query of the dispatcher could see.

`dispatch_exact` is the law: an unexpired event that was committed since the
cursor was initialised is published after a complete pass exactly when its id
was above the cursor at its commit.
-/
import Mathlib.Data.List.Induction
import Mathlib.Data.List.Sort
import AskLake.Lib.Run

namespace AskLake.Events

open AskLake.Lib

/-- `realtime_event_log`, as far as the dispatcher reads it. -/
structure LogRow where
  id : Nat
  expiresAt : Nat
  deriving DecidableEq, Repr

structure DispatchState where
  sequence : Nat := 0
  /-- Inserted rows of open transactions. -/
  pending : List (Nat × LogRow) := []
  committed : List LogRow := []
  now : Nat := 0
  lastCursor : Nat := 0
  /-- What `hub.publish` was called with. -/
  published : List LogRow := []
  deriving DecidableEq, Repr

structure DispatchSettings where
  replayLimit : Int
  retentionSeconds : Nat

inductive DispatchAction
  | allocate (transaction : Nat) (occurredAt : Option Nat)
  | commit (transaction : Nat)
  | rollback (transaction : Nat)
  | tick (seconds : Nat)
  | page
  deriving DecidableEq, Repr

/-! ## `dispatch_after` and `_dispatch_available` -/

/-- The rows a query at this time sees above `cursor`. -/
def visible (s : DispatchState) (cursor : Nat) : List LogRow :=
  s.committed.filter fun row => cursor < row.id ∧ s.now < row.expiresAt

/-- The same rows, by their ids. -/
def visibleInOrder (s : DispatchState) (cursor : Nat) : List LogRow :=
  (visible s cursor).insertionSort fun a b => a.id ≤ b.id

/-- `RealtimeEventRepository.dispatch_after` -/
def dispatchAfter (s : DispatchState) (afterCursor : Nat) (limit : Int) : List LogRow :=
  (visibleInOrder s afterCursor).take (max 1 limit).toNat

/-- The loop over one page. -/
def publishPage (cursor : Nat) (published : List LogRow) :
    List LogRow → Nat × List LogRow
  | [] => (cursor, published)
  | event :: rest =>
      if event.id ≤ cursor then publishPage cursor published rest
      else publishPage event.id (published ++ [event]) rest

/-- The pass returns after a page that is empty or shorter than the limit. -/
def lastPage (settings : DispatchSettings) (s : DispatchState) : Bool :=
  let events := dispatchAfter s s.lastCursor settings.replayLimit
  events = [] ∨ events.length < settings.replayLimit

def dispatchPage (settings : DispatchSettings) (s : DispatchState) : DispatchState :=
  let (cursor, published) := publishPage s.lastCursor s.published
    (dispatchAfter s s.lastCursor settings.replayLimit)
  { s with lastCursor := cursor, published := published }

/-- The row of an append: its id is the next of the sequence. -/
def nextRow (settings : DispatchSettings) (s : DispatchState) (occurredAt : Option Nat) : LogRow :=
  ⟨s.sequence + 1, occurredAt.getD s.now + settings.retentionSeconds⟩

def dispatchStep (settings : DispatchSettings) (s : DispatchState) :
    DispatchAction → DispatchState
  | .allocate transaction occurredAt =>
      { s with
        sequence := s.sequence + 1
        pending := s.pending ++ [(transaction, nextRow settings s occurredAt)] }
  | .commit transaction =>
      { s with
        pending := s.pending.filter fun entry => entry.1 ≠ transaction
        committed := s.committed ++
          (s.pending.filter fun entry => entry.1 = transaction).map Prod.snd }
  | .rollback transaction =>
      { s with pending := s.pending.filter fun entry => entry.1 ≠ transaction }
  | .tick seconds => { s with now := s.now + seconds }
  | .page => dispatchPage settings s

/-- `max_cursor`: the greatest visible id. -/
def maxCursor (s : DispatchState) : Nat :=
  ((visible s 0).map LogRow.id).foldl max 0

/-! ## One page -/

section
variable {settings : DispatchSettings} {s : DispatchState}

theorem mem_visible {cursor : Nat} {row : LogRow} :
    row ∈ visible s cursor ↔ row ∈ s.committed ∧ cursor < row.id ∧ s.now < row.expiresAt := by
  rw [visible, List.mem_filter, decide_eq_true_eq]

/-- A page of increasing ids above the cursor is published as it is. -/
theorem publishPage_eq {cursor : Nat} {published events : List LogRow}
    (hsorted : events.Pairwise fun a b => a.id < b.id) (habove : ∀ e ∈ events, cursor < e.id) :
    publishPage cursor published events =
      ((events.getLast?.elim cursor LogRow.id), published ++ events) := by
  induction events generalizing cursor published with
  | nil => simp [publishPage]
  | cons event rest ih =>
      rw [List.pairwise_cons] at hsorted
      have hevent : ¬ event.id ≤ cursor := not_le.mpr (habove event List.mem_cons_self)
      rw [publishPage, if_neg hevent, ih hsorted.2 hsorted.1, List.getLast?_cons,
        List.append_assoc]
      cases rest.getLast? <;> rfl

theorem mem_visibleInOrder {cursor : Nat} {row : LogRow} :
    row ∈ visibleInOrder s cursor ↔ row ∈ visible s cursor := List.mem_insertionSort _

theorem visibleInOrder_sorted (hids : (s.committed.map LogRow.id).Nodup) (cursor : Nat) :
    (visibleInOrder s cursor).Pairwise fun a b => a.id < b.id := by
  have hsorted : (visibleInOrder s cursor).Pairwise fun a b => a.id ≤ b.id :=
    List.pairwise_insertionSort _ _
  have hnodup : ((visibleInOrder s cursor).map LogRow.id).Nodup := by
    rw [visibleInOrder, ((List.perm_insertionSort _ _).map LogRow.id).nodup_iff]
    exact hids.sublist (List.filter_sublist.map LogRow.id)
  exact (hsorted.and (List.pairwise_map.mp hnodup)).imp fun h => lt_of_le_of_ne h.1 h.2

theorem dispatchAfter_sublist (cursor : Nat) (limit : Int) :
    (dispatchAfter s cursor limit).Sublist (visibleInOrder s cursor) := List.take_sublist _ _

/-- A page that is the last of its pass holds all visible rows. -/
theorem dispatchAfter_lastPage (h : lastPage settings s = true) :
    dispatchAfter s s.lastCursor settings.replayLimit = visibleInOrder s s.lastCursor := by
  have hlimit : 1 ≤ (max 1 settings.replayLimit).toNat := by omega
  rw [lastPage, decide_eq_true_eq] at h
  rcases h with hnil | hshort
  · rw [hnil]
    rw [dispatchAfter, List.take_eq_nil_iff] at hnil
    rcases hnil with hzero | hnil
    · omega
    · exact hnil.symm
  · refine List.take_of_length_le ?_
    rw [dispatchAfter, List.length_take] at hshort
    omega

/-- What a page does: it publishes the visible rows up to the new cursor, and all
of them when it is the last page of its pass. -/
structure Paged (settings : DispatchSettings) (s s' : DispatchState) (events : List LogRow) :
    Prop where
  same : s' = { s with lastCursor := s'.lastCursor, published := s.published ++ events }
  sorted : events.Pairwise fun a b => a.id < b.id
  shown : ∀ row ∈ events, row ∈ visible s s.lastCursor
  cursor_le : s.lastCursor ≤ s'.lastCursor
  upTo : ∀ row ∈ visible s s.lastCursor, row ∈ events ↔ row.id ≤ s'.lastCursor
  all : lastPage settings s = true → ∀ row ∈ visible s s.lastCursor, row ∈ events
  progress : lastPage settings s = false → events ≠ []

theorem dispatchPage_paged (hids : (s.committed.map LogRow.id).Nodup) :
    ∃ events, Paged settings s (dispatchPage settings s) events := by
  have hshown : ∀ row ∈ dispatchAfter s s.lastCursor settings.replayLimit,
      row ∈ visible s s.lastCursor :=
    fun row hrow => mem_visibleInOrder.mp ((dispatchAfter_sublist _ _).subset hrow)
  have habove : ∀ row ∈ dispatchAfter s s.lastCursor settings.replayLimit,
      s.lastCursor < row.id := fun row hrow => (mem_visible.mp (hshown row hrow)).2.1
  have hordered := visibleInOrder_sorted hids s.lastCursor
  have hsorted := hordered.sublist (dispatchAfter_sublist s.lastCursor settings.replayLimit)
  have hpage : dispatchPage settings s = { s with
      lastCursor := (dispatchAfter s s.lastCursor settings.replayLimit).getLast?.elim
        s.lastCursor LogRow.id
      published := s.published ++ dispatchAfter s s.lastCursor settings.replayLimit } := by
    unfold dispatchPage
    rw [publishPage_eq hsorted habove]
  refine ⟨_, by rw [hpage], hsorted, hshown, ?_, ?_, ?_, ?_⟩
  · rw [hpage]
    cases hend : (dispatchAfter s s.lastCursor settings.replayLimit).getLast? with
    | none => exact le_refl _
    | some row => exact (habove row (List.mem_of_getLast? hend)).le
  · -- the order splits at the last row of the page
    intro row hrow
    rw [hpage]
    have hsplit : dispatchAfter s s.lastCursor settings.replayLimit ++
        (visibleInOrder s s.lastCursor).drop (max 1 settings.replayLimit).toNat =
          visibleInOrder s s.lastCursor := List.take_append_drop _ _
    rw [← hsplit, List.pairwise_append] at hordered
    have hmem := mem_visibleInOrder.mpr hrow
    rw [← hsplit, List.mem_append] at hmem
    cases hend : (dispatchAfter s s.lastCursor settings.replayLimit).getLast? with
    | none =>
        rw [List.getLast?_eq_none_iff.mp hend]
        refine ⟨fun h => (nomatch h), fun hle => ?_⟩
        exact absurd hle (not_le.mpr (mem_visible.mp hrow).2.1)
    | some last =>
        have hlast := List.mem_of_getLast? hend
        obtain ⟨front, heq⟩ := List.getLast?_eq_some_iff.mp hend
        constructor
        · intro hin
          rw [heq] at hin hsorted
          rcases List.mem_append.mp hin with hfront | hend'
          · exact ((List.pairwise_append.mp hsorted).2.2 row hfront last List.mem_cons_self).le
          · rw [List.mem_singleton.mp hend']
            exact le_refl _
        · intro hle
          rcases hmem with hin | hout
          · exact hin
          · exact absurd hle (not_le.mpr (hordered.2.2 last hlast row hout))
  · intro hfinal row hrow
    rw [dispatchAfter_lastPage hfinal]
    exact mem_visibleInOrder.mpr hrow
  · intro hmore hnil
    rw [lastPage, decide_eq_false_iff_not] at hmore
    exact hmore (Or.inl hnil)

end

/-! ## Runs -/

/-- The dispatcher right after `_current_cursor`, beside any open transactions. -/
structure Initialised (s : DispatchState) : Prop where
  ids : (s.committed.map LogRow.id ++ s.pending.map fun entry => entry.2.id).Nodup
  allocated : ∀ id ∈ s.committed.map LogRow.id ++ s.pending.map fun entry => entry.2.id,
    id ≤ s.sequence
  cursor : s.lastCursor = maxCursor s
  published : s.published = []

/-- The row became visible when the cursor was at its id or above. -/
def Overtaken (settings : DispatchSettings) (s₀ : DispatchState) (run : List DispatchAction)
    (row : LogRow) : Prop :=
  ∃ before transaction after, run = before ++ .commit transaction :: after ∧
    (transaction, row) ∈ (play (dispatchStep settings) s₀ before).pending ∧
    row.id ≤ (play (dispatchStep settings) s₀ before).lastCursor

section
variable {settings : DispatchSettings} {s₀ : DispatchState}

theorem overtaken_snoc {run : List DispatchAction} {action : DispatchAction} {row : LogRow} :
    Overtaken settings s₀ (run ++ [action]) row ↔
      Overtaken settings s₀ run row ∨ ∃ transaction, action = .commit transaction ∧
        (transaction, row) ∈ (play (dispatchStep settings) s₀ run).pending ∧
        row.id ≤ (play (dispatchStep settings) s₀ run).lastCursor := by
  constructor
  · rintro ⟨before, transaction, after, heq, hpending, hle⟩
    rcases List.eq_nil_or_concat after with rfl | ⟨front, last, rfl⟩
    · obtain ⟨rfl, hlast⟩ := List.append_inj' heq rfl
      exact Or.inr ⟨transaction, List.singleton_inj.mp hlast, hpending, hle⟩
    · refine Or.inl ⟨before, transaction, front, ?_, hpending, hle⟩
      rw [List.concat_eq_append, ← List.cons_append, ← List.append_assoc] at heq
      exact (List.append_inj' heq rfl).1
  · rintro (⟨before, transaction, after, rfl, hpending, hle⟩ | ⟨transaction, rfl, hpending, hle⟩)
    · exact ⟨before, transaction, after ++ [action], by simp, hpending, hle⟩
    · exact ⟨run, transaction, [], rfl, hpending, hle⟩

/-- What a run keeps.  `settled` is the heart: an unexpired row at or below the
cursor has been published, or became visible too late. -/
structure Dispatched (settings : DispatchSettings) (s₀ : DispatchState)
    (run : List DispatchAction) (s : DispatchState) : Prop where
  ids : (s.committed.map LogRow.id ++ s.pending.map fun entry => entry.2.id).Nodup
  allocated : ∀ id ∈ s.committed.map LogRow.id ++ s.pending.map fun entry => entry.2.id,
    id ≤ s.sequence
  old : ∀ row ∈ s₀.committed, row.id ≤ s.lastCursor ∨ row.expiresAt ≤ s.now
  once : (s.published.map LogRow.id).Nodup
  published : ∀ row ∈ s.published, row ∈ s.committed ∧ row ∉ s₀.committed ∧
    row.id ≤ s.lastCursor ∧ ¬ Overtaken settings s₀ run row
  settled : ∀ row ∈ s.committed, row ∉ s₀.committed → row.id ≤ s.lastCursor →
    s.now < row.expiresAt → row ∈ s.published ∨ Overtaken settings s₀ run row
  overtaken : ∀ row, Overtaken settings s₀ run row → row ∈ s.committed ∧ row.id ≤ s.lastCursor

theorem le_foldl_max_nat (ids : List Nat) (start : Nat) :
    start ≤ ids.foldl max start ∧ ∀ id ∈ ids, id ≤ ids.foldl max start := by
  induction ids generalizing start with
  | nil => simp
  | cons id ids ih =>
      obtain ⟨hstart, hall⟩ := ih (max start id)
      rw [List.foldl_cons]
      refine ⟨by omega, fun id' hid' => ?_⟩
      rcases List.mem_cons.mp hid' with rfl | hid'
      · omega
      · exact hall id' hid'

theorem not_overtaken_nil (row : LogRow) : ¬ Overtaken settings s₀ [] row := by
  rintro ⟨before, transaction, after, heq, -⟩
  simp at heq

theorem Initialised.dispatched (h : Initialised s₀) : Dispatched settings s₀ [] s₀ where
  ids := h.ids
  allocated := h.allocated
  old := by
    intro row hrow
    by_cases hexpired : row.expiresAt ≤ s₀.now
    · exact Or.inr hexpired
    · rw [h.cursor]
      rcases Nat.eq_zero_or_pos row.id with hzero | hpos
      · exact Or.inl (hzero ▸ Nat.zero_le _)
      · have hvisible : row ∈ visible s₀ 0 := mem_visible.mpr ⟨hrow, hpos, not_le.mp hexpired⟩
        exact Or.inl ((le_foldl_max_nat _ 0).2 row.id (List.mem_map_of_mem hvisible))
  once := by rw [h.published]; exact .nil
  published := by
    rw [h.published]
    exact fun _ hrow => nomatch hrow
  settled := fun row hrow hnew => absurd hrow hnew
  overtaken := fun row hrow => absurd hrow (not_overtaken_nil row)

theorem overtaken_snoc_other {run : List DispatchAction} {action : DispatchAction} {row : LogRow}
    (h : ∀ transaction, action ≠ .commit transaction) :
    Overtaken settings s₀ (run ++ [action]) row ↔ Overtaken settings s₀ run row := by
  rw [overtaken_snoc]
  refine or_iff_left ?_
  rintro ⟨transaction, heq, -⟩
  exact h transaction heq

/-! ### What each action keeps -/

variable {run : List DispatchAction} {s : DispatchState}

theorem Dispatched.allocate (h : Dispatched settings s₀ run s) (transaction : Nat)
    (occurredAt : Option Nat) :
    Dispatched settings s₀ (run ++ [.allocate transaction occurredAt])
      (dispatchStep settings s (.allocate transaction occurredAt)) := by
  have hother : ∀ row, Overtaken settings s₀ (run ++ [.allocate transaction occurredAt]) row ↔
      Overtaken settings s₀ run row := fun row => overtaken_snoc_other fun _ h => nomatch h
  refine ⟨?_, ?_, h.old, h.once, ?_, ?_, ?_⟩
  · show (s.committed.map LogRow.id ++ (s.pending ++ [(transaction,
      nextRow settings s occurredAt)]).map fun entry => entry.2.id).Nodup
    rw [List.map_append, ← List.append_assoc, List.nodup_append]
    refine ⟨h.ids, List.nodup_singleton _, fun id hid id' hid' heq => ?_⟩
    have hle := h.allocated id hid
    rw [heq, List.mem_singleton.mp hid'] at hle
    exact Nat.not_succ_le_self _ hle
  · intro id hid
    show id ≤ s.sequence + 1
    have hid : id ∈ s.committed.map LogRow.id ++ (s.pending ++ [(transaction,
        nextRow settings s occurredAt)]).map fun entry => entry.2.id := hid
    rw [List.map_append, ← List.append_assoc, List.mem_append] at hid
    rcases hid with hid | hid
    · exact (h.allocated id hid).trans (Nat.le_succ _)
    · exact (List.mem_singleton.mp hid).le
  · intro row hrow
    rw [hother]
    exact h.published row hrow
  · intro row
    rw [hother]
    exact h.settled row
  · intro row
    rw [hother]
    exact h.overtaken row

theorem Dispatched.rollback (h : Dispatched settings s₀ run s) (transaction : Nat) :
    Dispatched settings s₀ (run ++ [.rollback transaction])
      (dispatchStep settings s (.rollback transaction)) := by
  have hother : ∀ row, Overtaken settings s₀ (run ++ [.rollback transaction]) row ↔
      Overtaken settings s₀ run row := fun row => overtaken_snoc_other fun _ h => nomatch h
  have hsub : (s.committed.map LogRow.id ++ (s.pending.filter fun entry =>
      entry.1 ≠ transaction).map fun entry => entry.2.id).Sublist
        (s.committed.map LogRow.id ++ s.pending.map fun entry => entry.2.id) :=
    (List.Sublist.refl _).append (List.filter_sublist.map _)
  refine ⟨h.ids.sublist hsub, fun id hid => h.allocated id (hsub.subset hid), h.old, h.once,
    ?_, ?_, ?_⟩
  · intro row hrow
    rw [hother]
    exact h.published row hrow
  · intro row
    rw [hother]
    exact h.settled row
  · intro row
    rw [hother]
    exact h.overtaken row

theorem Dispatched.tick (h : Dispatched settings s₀ run s) (seconds : Nat) :
    Dispatched settings s₀ (run ++ [.tick seconds]) (dispatchStep settings s (.tick seconds)) := by
  have hother : ∀ row, Overtaken settings s₀ (run ++ [.tick seconds]) row ↔
      Overtaken settings s₀ run row := fun row => overtaken_snoc_other fun _ h => nomatch h
  have hlater : s.now ≤ s.now + seconds := Nat.le_add_right _ _
  refine ⟨h.ids, h.allocated, fun row hrow => (h.old row hrow).imp_right fun hle => hle.trans hlater,
    h.once, ?_, ?_, ?_⟩
  · intro row hrow
    rw [hother]
    exact h.published row hrow
  · intro row hrow hnew hle hlive
    rw [hother]
    exact h.settled row hrow hnew hle (hlater.trans_lt hlive)
  · intro row
    rw [hother]
    exact h.overtaken row

theorem Dispatched.page (h : Dispatched settings s₀ run s) :
    Dispatched settings s₀ (run ++ [.page]) (dispatchPage settings s) := by
  have hother : ∀ row, Overtaken settings s₀ (run ++ [.page]) row ↔
      Overtaken settings s₀ run row := fun row => overtaken_snoc_other fun _ h => nomatch h
  obtain ⟨events, hpaged⟩ := @dispatchPage_paged settings s (List.nodup_append.mp h.ids).1
  have hsame := hpaged.same
  have hcursor := hpaged.cursor_le
  have hupTo := hpaged.upTo
  generalize dispatchPage settings s = s' at hsame hcursor hupTo ⊢
  generalize s'.lastCursor = cursor at hsame hcursor hupTo
  subst hsame
  refine ⟨h.ids, h.allocated, fun row hrow => (h.old row hrow).imp_left fun hle => hle.trans hcursor,
    ?_, ?_, ?_, ?_⟩
  · show ((s.published ++ events).map LogRow.id).Nodup
    rw [List.map_append, List.nodup_append]
    refine ⟨h.once, List.pairwise_map.mpr (hpaged.sorted.imp fun hlt => hlt.ne), ?_⟩
    intro id hid id' hid' heq
    obtain ⟨row, hrow, rfl⟩ := List.mem_map.mp hid
    obtain ⟨row', hrow', rfl⟩ := List.mem_map.mp hid'
    have hbelow := (h.published row hrow).2.2.1
    have habove := (mem_visible.mp (hpaged.shown row' hrow')).2.1
    omega
  · intro row hrow
    rw [hother]
    rcases List.mem_append.mp hrow with hold | hpage
    · obtain ⟨hcommitted, hnew, hle, hnot⟩ := h.published row hold
      exact ⟨hcommitted, hnew, hle.trans hcursor, hnot⟩
    · have hvisible := hpaged.shown row hpage
      obtain ⟨hcommitted, habove, hlive⟩ := mem_visible.mp hvisible
      refine ⟨hcommitted, fun hold => ?_, (hupTo row hvisible).mp hpage, fun hovertaken => ?_⟩
      · rcases h.old row hold with hle | hexpired
        · exact absurd hle (not_le.mpr habove)
        · exact absurd hexpired (not_le.mpr hlive)
      · exact absurd (h.overtaken row hovertaken).2 (not_le.mpr habove)
  · intro row hrow hnew hle hlive
    rw [hother]
    rcases le_or_gt row.id s.lastCursor with hbelow | habove
    · exact (h.settled row hrow hnew hbelow hlive).imp_left fun hin => List.mem_append_left _ hin
    · have hvisible : row ∈ visible s s.lastCursor := mem_visible.mpr ⟨hrow, habove, hlive⟩
      exact Or.inl (List.mem_append_right _ ((hupTo row hvisible).mpr hle))
  · intro row hovertaken
    rw [hother] at hovertaken
    obtain ⟨hcommitted, hle⟩ := h.overtaken row hovertaken
    exact ⟨hcommitted, hle.trans hcursor⟩

theorem Dispatched.commit
    (h : Dispatched settings s₀ run (play (dispatchStep settings) s₀ run)) (transaction : Nat) :
    Dispatched settings s₀ (run ++ [.commit transaction])
      (dispatchStep settings (play (dispatchStep settings) s₀ run) (.commit transaction)) := by
  have hsnoc : ∀ row, Overtaken settings s₀ (run ++ [.commit transaction]) row ↔
      Overtaken settings s₀ run row ∨ (transaction, row) ∈
        (play (dispatchStep settings) s₀ run).pending ∧
          row.id ≤ (play (dispatchStep settings) s₀ run).lastCursor := by
    intro row
    rw [overtaken_snoc]
    simp
  generalize play (dispatchStep settings) s₀ run = s at h hsnoc ⊢
  have hperm : ((s.committed ++ (s.pending.filter fun entry => entry.1 = transaction).map
      Prod.snd).map LogRow.id ++ (s.pending.filter fun entry => entry.1 ≠ transaction).map
        fun entry => entry.2.id).Perm
          (s.committed.map LogRow.id ++ s.pending.map fun entry => entry.2.id) := by
    have hsnd : LogRow.id ∘ Prod.snd = fun entry : Nat × LogRow => entry.2.id := rfl
    rw [List.map_append, List.append_assoc, List.map_map, hsnd, ← List.map_append]
    refine (List.Perm.refl _).append (List.Perm.map _ ?_)
    simpa using List.filter_append_perm (fun entry : Nat × LogRow => decide (entry.1 = transaction))
      s.pending
  have hmem : ∀ row, row ∈ s.committed ++ (s.pending.filter fun entry =>
      entry.1 = transaction).map Prod.snd ↔ row ∈ s.committed ∨ (transaction, row) ∈ s.pending := by
    intro row
    rw [List.mem_append]
    refine or_congr_right ?_
    constructor
    · intro hrow
      obtain ⟨⟨_, _⟩, hentry, rfl⟩ := List.mem_map.mp hrow
      obtain ⟨hpending, heq⟩ := List.mem_filter.mp hentry
      cases of_decide_eq_true heq
      exact hpending
    · intro hpending
      exact List.mem_map.mpr ⟨_, List.mem_filter.mpr ⟨hpending, decide_eq_true rfl⟩, rfl⟩
  refine ⟨hperm.nodup_iff.mpr h.ids, fun id hid => h.allocated id (hperm.mem_iff.mp hid), h.old,
    h.once, ?_, ?_, ?_⟩
  · intro row hrow
    obtain ⟨hcommitted, hnew, hle, hnot⟩ := h.published row hrow
    refine ⟨(hmem row).mpr (Or.inl hcommitted), hnew, hle, fun hovertaken => ?_⟩
    rcases (hsnoc row).mp hovertaken with hbefore | ⟨hpending, -⟩
    · exact hnot hbefore
    · -- a visible row is not pending: its id would be there twice
      exact (List.nodup_append.mp h.ids).2.2 row.id (List.mem_map_of_mem hcommitted) row.id
        (List.mem_map_of_mem (f := fun entry : Nat × LogRow => entry.2.id) hpending) rfl
  · intro row hrow hnew hle hlive
    rw [hsnoc]
    rcases (hmem row).mp hrow with hcommitted | hpending
    · exact (h.settled row hcommitted hnew hle hlive).imp_right Or.inl
    · exact Or.inr (Or.inr ⟨hpending, hle⟩)
  · intro row hovertaken
    rcases (hsnoc row).mp hovertaken with hbefore | ⟨hpending, hle⟩
    · obtain ⟨hcommitted, hle⟩ := h.overtaken row hbefore
      exact ⟨(hmem row).mpr (Or.inl hcommitted), hle⟩
    · exact ⟨(hmem row).mpr (Or.inr hpending), hle⟩

theorem play_dispatched (h : Initialised s₀) (run : List DispatchAction) :
    Dispatched settings s₀ run (play (dispatchStep settings) s₀ run) := by
  induction run using List.reverseRecOn with
  | nil => exact h.dispatched
  | append_singleton run action ih =>
      rw [play_append]
      cases action with
      | allocate transaction occurredAt => exact ih.allocate transaction occurredAt
      | commit transaction => exact ih.commit transaction
      | rollback transaction => exact ih.rollback transaction
      | tick seconds => exact ih.tick seconds
      | page => exact ih.page

/-! ## Complete passes -/

/-- Pages without anything between them come to a last one. -/
theorem pass_ends (hids : (s.committed.map LogRow.id).Nodup) :
    ∃ n, lastPage settings (play (dispatchStep settings) s (List.replicate n .page)) = true := by
  induction hleft : (visible s s.lastCursor).length using Nat.strong_induction_on generalizing s with
  | h left ih =>
      cases hlast : lastPage settings s with
      | true => exact ⟨0, hlast⟩
      | false =>
          obtain ⟨events, hpaged⟩ := @dispatchPage_paged settings s hids
          have hsame := hpaged.same
          have hcommitted : (dispatchPage settings s).committed = s.committed := by rw [hsame]
          have hnow : (dispatchPage settings s).now = s.now := by rw [hsame]
          obtain ⟨event, hevent⟩ := List.exists_mem_of_ne_nil _ (hpaged.progress hlast)
          have hfilter : visible (dispatchPage settings s) (dispatchPage settings s).lastCursor =
              (visible s s.lastCursor).filter fun row =>
                (dispatchPage settings s).lastCursor < row.id := by
            unfold visible
            rw [hcommitted, hnow, List.filter_filter]
            refine List.filter_congr fun row _ => ?_
            have hle := hpaged.cursor_le
            rw [← Bool.decide_and, decide_eq_decide]
            omega
          have hless : (visible (dispatchPage settings s)
              (dispatchPage settings s).lastCursor).length < left := by
            rw [hfilter, ← hleft]
            refine List.length_filter_lt_length_iff_exists.mpr ⟨event, hpaged.shown event hevent, ?_⟩
            have hle := (hpaged.upTo event (hpaged.shown event hevent)).mp hevent
            simpa using hle
          obtain ⟨n, hn⟩ := ih _ hless (by rw [hcommitted]; exact hids) rfl
          exact ⟨n + 1, hn⟩

/-- What the dispatcher delivers, over every interleaving of appending
transactions with its pages.

No event is published twice, and none before it is committed.  After a complete
pass, an event that was committed since the cursor was initialised and has not
expired is published exactly when it did not become visible behind the cursor.
A pass that is left alone completes. -/
theorem dispatch_exact (settings : DispatchSettings) {s₀ : DispatchState} (h : Initialised s₀)
    (run : List DispatchAction) :
    ((play (dispatchStep settings) s₀ run).published.map LogRow.id).Nodup ∧
    (∀ row ∈ (play (dispatchStep settings) s₀ run).published,
      row ∈ (play (dispatchStep settings) s₀ run).committed ∧ row ∉ s₀.committed) ∧
    (lastPage settings (play (dispatchStep settings) s₀ run) = true →
      ∀ row ∈ (play (dispatchStep settings) s₀ (run ++ [.page])).committed, row ∉ s₀.committed →
        (play (dispatchStep settings) s₀ (run ++ [.page])).now < row.expiresAt →
          (row ∈ (play (dispatchStep settings) s₀ (run ++ [.page])).published ↔
            ¬ Overtaken settings s₀ run row)) ∧
    ∃ n, lastPage settings
      (play (dispatchStep settings) s₀ (run ++ List.replicate n .page)) = true := by
  have hrun := @play_dispatched settings s₀ h run
  refine ⟨hrun.once, fun row hrow => ?_, fun hlast row hrow hnew hlive => ?_, ?_⟩
  · obtain ⟨hcommitted, hnew, -⟩ := hrun.published row hrow
    exact ⟨hcommitted, hnew⟩
  · have hpage := @play_dispatched settings s₀ h (run ++ [.page])
    have hother : Overtaken settings s₀ (run ++ [.page]) row ↔ Overtaken settings s₀ run row :=
      overtaken_snoc_other fun _ h => nomatch h
    constructor
    · intro hpublished
      rw [← hother]
      exact (hpage.published row hpublished).2.2.2
    · intro hnot
      rw [play_append] at hrow hlive ⊢
      obtain ⟨events, hpaged⟩ := @dispatchPage_paged settings
        (play (dispatchStep settings) s₀ run) (List.nodup_append.mp hrun.ids).1
      have hstep : play (dispatchStep settings) (play (dispatchStep settings) s₀ run) [.page] =
          dispatchPage settings (play (dispatchStep settings) s₀ run) := rfl
      rw [hstep, hpaged.same] at hrow hlive ⊢
      rcases le_or_gt row.id (play (dispatchStep settings) s₀ run).lastCursor with hbelow | habove
      · exact List.mem_append_left _
          ((hrun.settled row hrow hnew hbelow hlive).resolve_right hnot)
      · refine List.mem_append_right _ (hpaged.all hlast row ?_)
        exact mem_visible.mpr ⟨hrow, habove, hlive⟩
  · obtain ⟨n, hn⟩ := @pass_ends settings _ (List.nodup_append.mp hrun.ids).1
    exact ⟨n, by rw [play_append]; exact hn⟩

end

/-! ## Two transactions -/

def pollSettings : DispatchSettings := ⟨100, 3600⟩

/-- Two appends that commit in the order of their ids. -/
def inOrder : List DispatchAction :=
  [.allocate 1 none, .allocate 2 none, .commit 1, .page, .commit 2]

theorem initialised_empty : Initialised {} :=
  ⟨.nil, fun _ h => (nomatch h), rfl, rfl⟩

/-- Both events are published. -/
theorem dispatch_exact_inOrder :
    (play (dispatchStep pollSettings) {} (inOrder ++ [.page])).committed ⊆
      (play (dispatchStep pollSettings) {} (inOrder ++ [.page])).published := by
  have hnone : ∀ row, ¬ Overtaken pollSettings {} inOrder row := by
    intro row hrow
    have hrows := (@play_dispatched pollSettings _ initialised_empty inOrder).overtaken
      row hrow
    have hall : ∀ row ∈ (play (dispatchStep pollSettings) {} inOrder).committed,
        row.id ≤ (play (dispatchStep pollSettings) {} inOrder).lastCursor →
          row ∈ (play (dispatchStep pollSettings) {} inOrder).published := by decide
    exact ((@play_dispatched pollSettings _ initialised_empty inOrder).published row
      (hall row hrows.1 hrows.2)).2.2.2 hrow
  intro row hrow
  have hlive : ∀ row ∈ (play (dispatchStep pollSettings) {} (inOrder ++ [.page])).committed,
      (play (dispatchStep pollSettings) {} (inOrder ++ [.page])).now < row.expiresAt := by decide
  exact ((dispatch_exact pollSettings initialised_empty inOrder).2.2.1 (by decide) row hrow
    (fun h => nomatch h) (hlive row hrow)).mpr (hnone row)

/-- The second id is committed and published before the first one commits. -/
def outOfOrder : List DispatchAction :=
  [.allocate 1 none, .allocate 2 none, .commit 2, .page, .commit 1]

/-- The event with the lower id is never loaded: a complete pass with no open
transaction leaves it unpublished. -/
theorem late_commit_is_lost :
    lastPage pollSettings (play (dispatchStep pollSettings) {} outOfOrder) = true ∧
      (play (dispatchStep pollSettings) {} (outOfOrder ++ [.page])).pending = [] ∧
      ¬ ∀ row ∈ (play (dispatchStep pollSettings) {} (outOfOrder ++ [.page])).committed,
        (play (dispatchStep pollSettings) {} (outOfOrder ++ [.page])).now < row.expiresAt →
          row ∈ (play (dispatchStep pollSettings) {} (outOfOrder ++ [.page])).published := by
  decide

end AskLake.Events

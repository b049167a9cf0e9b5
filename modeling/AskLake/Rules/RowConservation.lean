/-
# `AskLake.Rules.RowConservation` — where every row of a batch goes

A batch that no `fail_batch` rule stops gives each of its rows to one of three places:

    the output frame, the quarantine frame, the rows that `drop_row` removed

and the counts of the result are the sizes of these.  The quality stage is `settle`: every rule
has one verdict on each row, from the columns that the transforms left, and the rules take their
rows in order.

The flag columns of the quality rules stand in the frame that later rules and the actions look
names up in.  A rule whose input has the name of a flag reads the flag, and its `set_null` may
erase the verdict of a rule that is still to act; the rows whose verdict is erased are then in
neither half of that rule's split.  `ReadsNoFlag` excludes these names.
-/
import Mathlib.Algebra.Order.Group.Multiset
import Mathlib.Tactic.Abel
import Std.Data.String.ToNat
import AskLake.Rules.Certainty

namespace AskLake.Rules

open AskLake.Lib AskLake.Python

variable {ν : Type} (host : Host) (spark : Spark ν)

/-! ## Verdicts -/

/-- What a quality rule says of a row of the frame that the transforms left. -/
def verdict (left : Frame ν) (rule : Value) (row : Row ν) : Bool :=
  match (qualityFailureCondition host spark left rule : Except RuleFailure _) with
  | .ok (condition, _) => Kleene.holds (condition.truthOn row)
  | .error _ => false

/-- The quality stage as the verdicts have it. -/
structure Settled (ν : Type) where
  rows : List (Row ν)
  quarantined : List (Row ν) := []
  dropped : List (Row ν) := []
  setNullCount : Nat := 0
  warnCount : Nat := 0

/-- A rule takes its rows from those that are left. -/
def settleRule (left : Frame ν) (s : Settled ν) (rule : Value) : Settled ν :=
  let failing := s.rows.filter (verdict host spark left rule)
  let passing := s.rows.filter fun row => !verdict host spark left rule row
  match failureAction rule with
  | .quarantine => { s with rows := passing, quarantined := s.quarantined ++ failing }
  | .dropRow => { s with rows := passing, dropped := s.dropped ++ failing }
  | .setNull => { s with setNullCount := s.setNullCount + failing.length }
  | _ => { s with warnCount := s.warnCount + failing.length }

def settle (left : Frame ν) (qualityRules : List Value) : Settled ν :=
  qualityRules.foldl (settleRule host spark left) { rows := left.rows }

/-- Items that move from the first place to the second or the third are still there. -/
theorem moved_perm {α : Type*} {rows passing failing : List α} (quarantined dropped : List α)
    (h : (failing ++ passing).Perm rows) :
    (passing ++ (quarantined ++ failing ++ dropped)).Perm (rows ++ (quarantined ++ dropped)) ∧
      (passing ++ (quarantined ++ (dropped ++ failing))).Perm
        (rows ++ (quarantined ++ dropped)) := by
  have hrows := Multiset.coe_eq_coe.mpr h
  constructor <;>
    · rw [← Multiset.coe_eq_coe]
      simp only [← Multiset.coe_add] at hrows ⊢
      rw [← hrows]
      abel

/-- Settling moves rows, it does not make or lose one. -/
theorem settleRule_perm (left : Frame ν) (s : Settled ν) (rule : Value) :
    ((settleRule host spark left s rule).rows ++ ((settleRule host spark left s rule).quarantined ++
      (settleRule host spark left s rule).dropped)).Perm
        (s.rows ++ (s.quarantined ++ s.dropped)) := by
  have hsplit := List.filter_append_perm (verdict host spark left rule) s.rows
  unfold settleRule
  cases failureAction rule with
  | quarantine => exact (moved_perm s.quarantined s.dropped hsplit).1
  | dropRow => exact (moved_perm s.quarantined s.dropped hsplit).2
  | setNull => exact List.Perm.refl _
  | keep => exact List.Perm.refl _
  | failBatch => exact List.Perm.refl _

theorem settle_perm (left : Frame ν) (qualityRules : List Value) :
    ((settle host spark left qualityRules).rows ++
      ((settle host spark left qualityRules).quarantined ++
        (settle host spark left qualityRules).dropped)).Perm left.rows := by
  have hfold : ∀ (rules : List Value) (s : Settled ν),
      ((rules.foldl (settleRule host spark left) s).rows ++
        ((rules.foldl (settleRule host spark left) s).quarantined ++
          (rules.foldl (settleRule host spark left) s).dropped)).Perm
            (s.rows ++ (s.quarantined ++ s.dropped)) := by
    intro rules
    induction rules with
    | nil => exact fun s => List.Perm.refl _
    | cons rule rules ih =>
        intro s
        exact (ih _).trans (settleRule_perm host spark left s rule)
  have h := hfold qualityRules { rows := left.rows }
  simpa [settle] using h

/-! ## The property -/

/-- The numbers of the rows in a quarantine frame. -/
def quarantinedNumbers (quarantine : Option (Frame ν)) : List Nat :=
  (quarantine.map Frame.numbers).getD []

section

variable (frame : Frame ν) (rules : List Value) (inputRowCount : Option Int)

/-- The transforms up to `pre` leave the state `s`. -/
def Transforms (pre : List Value) (s : Transforming ν) : Prop :=
  pre.foldlM (transformStep host spark (startQuality rules))
    (startTransforms spark frame rules inputRowCount) = .ok s

/-- A transform is evaluated, on this state. -/
def Evaluated (rule : Value) (s : Transforming ν) : Prop :=
  ∃ pre post, rulesOf "transform" rules = pre ++ rule :: post ∧
    Transforms host spark frame rules inputRowCount pre s ∧ outputName host rule ≠ ""

/-- The rows on which a transform is invalid. -/
def invalidRows (s : Transforming ν) (rule : Value) : Frame ν :=
  s.current.filter (transformExpression host spark s.current rule).invalid

/-- A rule with `fail_batch` has an invalid row when it is evaluated. -/
def FailsBatch : Prop :=
  (∃ rule s, Evaluated host spark frame rules inputRowCount rule s ∧
    failureAction rule = .failBatch ∧ (invalidRows host spark s rule).count ≠ 0) ∨
  ∃ s, Transforms host spark frame rules inputRowCount (rulesOf "transform" rules) s ∧
    ∃ rule ∈ rulesOf "quality" rules, failureAction rule = .failBatch ∧
      ∃ row ∈ s.current.rows, verdict host spark s.current rule row = true

/-- A row that a transform with this action removed. -/
def RemovedBy (action : FailureAction) (number : Nat) : Prop :=
  ∃ rule s, Evaluated host spark frame rules inputRowCount rule s ∧ failureAction rule = action ∧
    number ∈ (invalidRows host spark s rule).numbers

/-- What a batch that returns says of its rows. -/
structure Conserved (result : SnapshotResult ν) (left : Transforming ν) (dropped : List Nat) :
    Prop where
  transforms : Transforms host spark frame rules inputRowCount (rulesOf "transform" rules) left
  /-- Each row is in one place. -/
  rows : (result.frame.numbers ++ (quarantinedNumbers result.quarantine ++
    (dropped ++ (settle host spark left.current (rulesOf "quality" rules)).dropped.map
      Row.number))).Perm frame.numbers
  transformDropped : result.transform.droppedCount = dropped.length
  transformQuarantined :
    result.transform.quarantinedCount = (quarantinedNumbers left.quarantine).length
  droppedBy : ∀ number ∈ dropped,
    RemovedBy host spark frame rules inputRowCount .dropRow number
  quarantinedBy : ∀ number ∈ quarantinedNumbers left.quarantine,
    RemovedBy host spark frame rules inputRowCount .quarantine number
  /-- The quality stage is what the verdicts on the transforms' frame make it. -/
  judgedOutput : result.frame.numbers =
    (settle host spark left.current (rulesOf "quality" rules)).rows.map Row.number
  judgedQuarantine : quarantinedNumbers result.quarantine = quarantinedNumbers left.quarantine ++
    (settle host spark left.current (rulesOf "quality" rules)).quarantined.map Row.number
  judgedCounts : result.quality.quarantinedCount =
      (settle host spark left.current (rulesOf "quality" rules)).quarantined.length ∧
    result.quality.droppedCount =
      (settle host spark left.current (rulesOf "quality" rules)).dropped.length ∧
    result.quality.setNullCount =
      (settle host spark left.current (rulesOf "quality" rules)).setNullCount ∧
    result.quality.warnCount =
      (settle host spark left.current (rulesOf "quality" rules)).warnCount
  evaluated : result.quality.evaluatedRowCount = some (left.current.count : Int)
  /-- The counts of the result add up. -/
  total : result.frame.count + (quarantinedNumbers result.quarantine).length +
    result.transform.droppedCount + result.quality.droppedCount = frame.count
  quarantineTotal : (quarantinedNumbers result.quarantine).length =
    result.transform.quarantinedCount + result.quality.quarantinedCount

/-- A batch raises for a rule exactly when a `fail_batch` rule has an invalid row, and otherwise
returns with every row in one place. -/
def RowsConserved [DecidableEq ν] : Prop :=
  match applySnapshotRules host spark frame rules inputRowCount with
  | .error failure =>
      (∃ error, failure = .rule error) ∧ FailsBatch host spark frame rules inputRowCount
  | .ok result =>
      ¬ FailsBatch host spark frame rules inputRowCount ∧
        ∃ left dropped, Conserved host spark frame rules inputRowCount result left dropped

end

variable {host : Host} {spark : Spark ν}

/-! ## The transforms -/

theorem quarantinedNumbers_append (quarantine : Option (Frame ν)) (next : Frame ν) :
    quarantinedNumbers (some (appendQuarantine quarantine next)) =
      quarantinedNumbers quarantine ++ next.numbers := by
  cases quarantine with
  | none => rfl
  | some rows => exact Frame.numbers_union _ _

@[simp] theorem numbers_quarantineRows (frame : Frame ν) (stage : String) (rule : Value)
    (reason : String) : (quarantineRows host spark frame stage rule reason).numbers = frame.numbers :=
  Frame.numbers_select _ _

/-- How a transform moves the rows. -/
structure TransformMove (host : Host) (spark : Spark ν) (s s' : Transforming ν) (rule : Value) (removed : List Nat) : Prop where
  rows : (removed ++ s'.current.numbers).Perm s.current.numbers
  removed_eq : removed = [] ∨ removed = (invalidRows host spark s rule).numbers
  quarantine : quarantinedNumbers s'.quarantine = quarantinedNumbers s.quarantine ++
    if failureAction rule = .quarantine then removed else []
  quarantined : s'.stats.quarantinedCount = s.stats.quarantinedCount +
    if failureAction rule = .quarantine then removed.length else 0
  dropped : s'.stats.droppedCount = s.stats.droppedCount +
    if failureAction rule = .dropRow then removed.length else 0
  elsewhere : failureAction rule ≠ .quarantine → failureAction rule ≠ .dropRow → removed = []
  counted : s'.currentRowCount =
    some (s.currentRowCount.getD s.current.count - (removed.length : Int))
  columns : ∃ c, s'.current.columns = (s.current.withColumn spark (outputName host rule) c).columns

/-- The rows of a frame with a certain condition, cut into the two halves. -/
theorem split_numbers (s : Transforming ν) (rule : Value) (name : String) (c : Column ν) :
    ((invalidRows host spark s rule).numbers ++ ((s.current.filter
      (transformExpression host spark s.current rule).invalid.not).withColumn spark name c).numbers
        ).Perm s.current.numbers := by
  rw [Frame.numbers_withColumn]
  exact Frame.numbers_filter_perm _ fun row _ => certain_transform _ _ row

theorem TransformMove.none {s s' : Transforming ν} {rule : Value} {c : Column ν}
    (hcurrent : s'.current = s.current.withColumn spark (outputName host rule) c)
    (hquarantine : s'.quarantine = s.quarantine)
    (hquarantined : s'.stats.quarantinedCount = s.stats.quarantinedCount)
    (hdropped : s'.stats.droppedCount = s.stats.droppedCount)
    (hcounted : s'.currentRowCount = some (s.currentRowCount.getD s.current.count)) :
    TransformMove host spark s s' rule [] where
  rows := by
    rw [hcurrent, Frame.numbers_withColumn]
    exact List.Perm.refl _
  removed_eq := Or.inl rfl
  quarantine := by simp [hquarantine]
  quarantined := by simp [hquarantined]
  dropped := by simp [hdropped]
  elsewhere := fun _ _ => rfl
  counted := by simp [hcounted]
  columns := ⟨c, by rw [hcurrent]⟩

/-- A transform removes its invalid rows where its action says so, and no others; it raises
exactly where it must. -/
theorem applyTransform_ok {quality : QualityStats} {s s' : Transforming ν} {rule : Value}
    (h : applyTransform host spark quality s rule = .ok s') :
    (∃ removed, TransformMove host spark s s' rule removed) ∧
      ¬ (failureAction rule = .failBatch ∧ (invalidRows host spark s rule).count ≠ 0) := by
  unfold applyTransform at h
  dsimp only at h
  by_cases hcount :
      (s.current.filter (transformExpression host spark s.current rule).invalid).count = 0
  · refine ⟨⟨[], ?_⟩, fun hfail => hfail.2 hcount⟩
    rw [if_pos hcount] at h
    cases h
    have hleft : ¬ ((s.current.filter (transformExpression host spark s.current rule).invalid).count
        ≠ 0 ∧ (failureAction rule = .quarantine ∨ failureAction rule = .dropRow)) :=
      fun hleft => hleft.1 hcount
    exact .none rfl rfl rfl rfl (by rw [if_neg hleft])
  · rw [if_neg hcount] at h
    cases haction : failureAction rule with
    | failBatch =>
        rw [haction] at h
        exact nomatch h
    | quarantine =>
        rw [haction] at h
        cases h
        refine ⟨⟨(invalidRows host spark s rule).numbers, ?_⟩, fun hfail => nomatch hfail.1⟩
        exact
          { rows := split_numbers s rule _ _
            removed_eq := Or.inr rfl
            quarantine := by
              rw [if_pos haction, quarantinedNumbers_append, numbers_quarantineRows]
              rfl
            quarantined := by
              rw [if_pos haction, Frame.length_numbers]
              rfl
            dropped := by simp [haction]
            elsewhere := fun hne => absurd haction hne
            counted := by
              rw [if_pos ⟨hcount, Or.inl rfl⟩, Frame.length_numbers]
              rfl
            columns := ⟨(transformExpression host spark s.current rule).expression, rfl⟩ }
    | dropRow =>
        rw [haction] at h
        cases h
        refine ⟨⟨(invalidRows host spark s rule).numbers, ?_⟩, fun hfail => nomatch hfail.1⟩
        exact
          { rows := split_numbers s rule _ _
            removed_eq := Or.inr rfl
            quarantine := by simp [haction]
            quarantined := by simp [haction]
            dropped := by
              rw [if_pos haction, Frame.length_numbers]
              rfl
            elsewhere := fun _ hne => absurd haction hne
            counted := by
              rw [if_pos ⟨hcount, Or.inr rfl⟩, Frame.length_numbers]
              rfl
            columns := ⟨(transformExpression host spark s.current rule).expression, rfl⟩ }
    | setNull =>
        rw [haction] at h
        cases h
        exact ⟨⟨[], .none rfl rfl rfl rfl (by simp)⟩, fun hfail => nomatch hfail.1⟩
    | keep =>
        rw [haction] at h
        cases h
        exact ⟨⟨[], .none rfl rfl rfl rfl (by simp)⟩, fun hfail => nomatch hfail.1⟩


section

variable {frame : Frame ν} {rules : List Value} {inputRowCount : Option Int}

/-- The rows after some of the transforms. -/
structure TransformAccount (host : Host) (spark : Spark ν) (frame : Frame ν) (rules : List Value)
    (inputRowCount : Option Int) (s : Transforming ν) (dropped : List Nat) : Prop where
  rows : (s.current.numbers ++ (quarantinedNumbers s.quarantine ++ dropped)).Perm frame.numbers
  droppedCount : s.stats.droppedCount = dropped.length
  quarantinedCount : s.stats.quarantinedCount = (quarantinedNumbers s.quarantine).length
  droppedBy : ∀ number ∈ dropped, RemovedBy host spark frame rules inputRowCount .dropRow number
  quarantinedBy : ∀ number ∈ quarantinedNumbers s.quarantine,
    RemovedBy host spark frame rules inputRowCount .quarantine number
  counted : ∀ n, s.currentRowCount = some n → n = s.current.count

theorem startTransforms_account (hcount : ∀ n, inputRowCount = some n → n = frame.count) :
    TransformAccount host spark frame rules inputRowCount
      (startTransforms spark frame rules inputRowCount) [] where
  rows := by
    have h : (startTransforms spark frame rules inputRowCount).current.numbers = frame.numbers :=
      Frame.numbers_withColumn _ _ _ _
    rw [h]
    simp [startTransforms, quarantinedNumbers]
  droppedCount := rfl
  quarantinedCount := rfl
  droppedBy := fun _ h => nomatch h
  quarantinedBy := fun _ h => nomatch h
  counted := by
    intro n hn
    rw [hcount n hn, ← Frame.length_numbers, ← Frame.length_numbers]
    congr 2
    exact (Frame.numbers_withColumn _ _ _ _).symm

/-- An evaluated transform that does not raise keeps the account. -/
theorem TransformAccount.step {s s' : Transforming ν} {rule : Value} {dropped removed : List Nat}
    (hs : TransformAccount host spark frame rules inputRowCount s dropped)
    (heval : Evaluated host spark frame rules inputRowCount rule s)
    (hmove : TransformMove host spark s s' rule removed) :
    TransformAccount host spark frame rules inputRowCount s'
      (dropped ++ if failureAction rule = .dropRow then removed else []) := by
  have hmem : ∀ number ∈ removed, number ∈ (invalidRows host spark s rule).numbers := by
    intro number hnumber
    rcases hmove.removed_eq with rfl | rfl
    · exact nomatch hnumber
    · exact hnumber
  have hlen := hmove.rows.length_eq
  rw [List.length_append, Frame.length_numbers, Frame.length_numbers] at hlen
  refine ⟨?_, ?_, ?_, ?_, ?_, ?_⟩
  · refine List.Perm.trans ?_ hs.rows
    have hmoved := moved_perm (quarantinedNumbers s.quarantine) dropped hmove.rows
    rw [hmove.quarantine]
    by_cases hq : failureAction rule = .quarantine
    · have hd : failureAction rule ≠ .dropRow := fun h => nomatch hq.symm.trans h
      rw [if_pos hq, if_neg hd, List.append_nil]
      exact hmoved.1
    · rw [if_neg hq, List.append_nil]
      by_cases hd : failureAction rule = .dropRow
      · rw [if_pos hd]
        exact hmoved.2
      · have hnil := hmove.elsewhere hq hd
        subst hnil
        rw [if_neg hd, List.append_nil]
        exact hmove.rows.append_right _
  · rw [hmove.dropped, hs.droppedCount, List.length_append]
    split <;> rfl
  · rw [hmove.quarantined, hs.quarantinedCount, hmove.quarantine, List.length_append]
    split <;> rfl
  · intro number hnumber
    rcases List.mem_append.mp hnumber with hold | hnew
    · exact hs.droppedBy number hold
    · split at hnew
      · rename_i haction
        exact ⟨rule, s, heval, haction, hmem number hnew⟩
      · exact nomatch hnew
  · intro number hnumber
    rw [hmove.quarantine] at hnumber
    rcases List.mem_append.mp hnumber with hold | hnew
    · exact hs.quarantinedBy number hold
    · split at hnew
      · rename_i haction
        exact ⟨rule, s, heval, haction, hmem number hnew⟩
      · exact nomatch hnew
  · intro n hn
    rw [hmove.counted] at hn
    have hbefore : s.currentRowCount.getD s.current.count = s.current.count := by
      cases hc : s.currentRowCount with
      | none => rfl
      | some m => exact hs.counted m hc
    rw [hbefore] at hn
    have := Option.some.inj hn
    omega

end

/-! ## The names of the flags -/

theorem toList_flagName (index : Nat) :
    (flagName index).toList = flagPrefix.toList ++ index.repr.toList :=
  String.toList_append

theorem flagName_head (index : Nat) : (flagName index).toList.head? = some '_' := by
  rw [toList_flagName]
  rfl

theorem flagName_injective {i j : Nat} (h : flagName i = flagName j) : i = j := by
  have hlist := congrArg String.toList h
  rw [toList_flagName, toList_flagName] at hlist
  exact Nat.repr_injective (String.toList_inj.mp (List.append_cancel_left hlist))

theorem normalizeName_ne_flag (host : Host) (value : Value) (index : Nat) :
    normalizeName host value ≠ flagName index := by
  intro h
  have hhead := flagName_head index
  rw [← h] at hhead
  exact slug_head hhead rfl

/-- Case folding leaves a digit. -/
theorem fold_digit (spark : Spark ν) {c : Char} (h : c.isDigit = true) : spark.fold c = c := by
  have hle : c.val ≤ 57 := by
    simp only [Char.isDigit, Bool.and_eq_true, decide_eq_true_eq] at h
    exact h.2
  have hn : c.toNat ≤ 57 := hle
  have hascii : isAscii c = true := by
    unfold isAscii
    exact decide_eq_true (by omega)
  rw [spark.fold_ascii c hascii]
  delta Char.toLower
  rw [dif_neg]
  rintro ⟨hupper, -⟩
  have : (65 : Nat) ≤ c.toNat := hupper
  omega

theorem sameName_flagName {i j : Nat} (h : spark.sameName (flagName i) (flagName j) = true) :
    i = j := by
  unfold Spark.sameName at h
  rw [beq_iff_eq, toList_flagName, toList_flagName, List.map_append, List.map_append] at h
  have hdigits : ∀ n : Nat, n.repr.toList.map spark.fold = n.repr.toList := by
    intro n
    refine (List.map_congr_left fun c hc => ?_).trans (List.map_id _)
    rw [Nat.toList_repr] at hc
    exact fold_digit spark (Nat.isDigit_of_mem_toDigits (by decide) (by decide) hc)
  have hrest := List.append_cancel_left h
  rw [hdigits, hdigits] at hrest
  exact Nat.repr_injective (String.toList_inj.mp hrest)

/-- The row id is no flag: the names differ in their eleventh letter. -/
theorem sameName_rowIdName (spark : Spark ν) (index : Nat) :
    spark.sameName rowIdName (flagName index) = false := by
  rw [Bool.eq_false_iff]
  intro h
  unfold Spark.sameName at h
  rw [beq_iff_eq] at h
  have hletter := congrArg (·[10]?) h
  have hflag : (flagName index).toList[10]? = some 'q' := by
    rw [toList_flagName, List.getElem?_append_left (by decide)]
    rfl
  have hrow : rowIdName.toList[10]? = some 'r' := rfl
  simp only [List.getElem?_map, hflag, hrow, Option.map_some, Option.some.injEq] at hletter
  rw [spark.fold_ascii 'r' rfl, spark.fold_ascii 'q' rfl] at hletter
  exact absurd hletter (by decide)

theorem sameName_outputName (rule : Value) (index : Nat) :
    spark.sameName (outputName host rule) (flagName index) = false := by
  rw [Bool.eq_false_iff]
  intro h
  exact slug_head (spark.sameName_underscore h (flagName_head index)) rfl

/-- Columns that are no flag of a quality rule, as Spark compares names. -/
def FlagFree (spark : Spark ν) (columns : List String) : Prop :=
  ∀ column ∈ columns, ∀ index, spark.sameName column (flagName index) = false

theorem Frame.mem_columnsWith {frame : Frame ν} {name column : String}
    (h : column ∈ frame.columnsWith spark name) : column ∈ frame.columns ∨ column = name := by
  unfold Frame.columnsWith at h
  split at h
  · obtain ⟨old, hold, rfl⟩ := List.mem_map.mp h
    split
    · exact Or.inr rfl
    · exact Or.inl hold
  · rcases List.mem_append.mp h with hold | hnew
    · exact Or.inl hold
    · exact Or.inr (List.mem_singleton.mp hnew)

theorem FlagFree.withColumn {frame : Frame ν} {name : String} (h : FlagFree spark frame.columns)
    (hname : ∀ index, spark.sameName name (flagName index) = false) (c : Column ν) :
    FlagFree spark (frame.withColumn spark name c).columns := by
  intro column hcolumn
  rcases Frame.mem_columnsWith hcolumn with hold | rfl
  · exact h column hold
  · exact hname

/-! ## The run of the transforms -/

section

variable {frame : Frame ν} {rules : List Value} {inputRowCount : Option Int}

theorem transformStep_of_output {quality : QualityStats} {s : Transforming ν} {rule : Value}
    (h : outputName host rule ≠ "") :
    transformStep host spark quality s rule = applyTransform host spark quality s rule := by
  unfold transformStep
  rw [if_neg h]

theorem transformStep_of_no_output {quality : QualityStats} {s : Transforming ν} {rule : Value}
    (h : outputName host rule = "") : transformStep host spark quality s rule = .ok s := by
  unfold transformStep
  rw [if_pos h]

theorem Transforms.snoc {pre : List Value} {rule : Value} {s' : Transforming ν}
    (h : Transforms host spark frame rules inputRowCount (pre ++ [rule]) s') :
    ∃ s, Transforms host spark frame rules inputRowCount pre s ∧
      transformStep host spark (startQuality rules) s rule = .ok s' := by
  unfold Transforms at h ⊢
  rw [List.foldlM_append] at h
  obtain ⟨s, hs, hstep⟩ := bind_eq_ok.mp h
  refine ⟨s, hs, ?_⟩
  obtain ⟨s₁, hs₁, hnil⟩ := bind_eq_ok.mp hstep
  cases pure_eq_ok.mp hnil
  exact hs₁

/-- Every state of the transforms accounts for the rows, and has no column named as a flag. -/
theorem transforms_account (hcount : ∀ n, inputRowCount = some n → n = frame.count)
    (hfree : FlagFree spark frame.columns) (pre : List Value) :
    ∀ post s, rulesOf "transform" rules = pre ++ post →
      Transforms host spark frame rules inputRowCount pre s →
      (∃ dropped, TransformAccount host spark frame rules inputRowCount s dropped) ∧
        FlagFree spark s.current.columns := by
  induction pre using List.reverseRecOn with
  | nil =>
      intro post s _ hs
      cases pure_eq_ok.mp hs
      exact ⟨⟨[], startTransforms_account hcount⟩,
        hfree.withColumn (sameName_rowIdName spark) _⟩
  | append_singleton pre rule ih =>
      intro post s' hpost hs'
      obtain ⟨s, hs, hstep⟩ := hs'.snoc
      rw [List.append_assoc] at hpost
      obtain ⟨⟨dropped, haccount⟩, hcolumns⟩ := ih _ s hpost hs
      by_cases houtput : outputName host rule = ""
      · rw [transformStep_of_no_output houtput] at hstep
        cases hstep
        exact ⟨⟨dropped, haccount⟩, hcolumns⟩
      · rw [transformStep_of_output houtput] at hstep
        obtain ⟨⟨removed, hmove⟩, -⟩ := applyTransform_ok hstep
        refine ⟨⟨_, haccount.step ⟨pre, post, hpost, hs, houtput⟩ hmove⟩, ?_⟩
        obtain ⟨c, hc⟩ := hmove.columns
        rw [hc]
        exact hcolumns.withColumn (sameName_outputName rule) c

end

/-! ## The flags -/

/-- `flagged` is `left` with the flags before `i`; `g` is what became of a row. -/
structure Flagging (spark : Spark ν) (left flagged : Frame ν) (i : Nat) (g : Row ν → Row ν) :
    Prop where
  rows : flagged.rows = left.rows.map g
  number : ∀ row, (g row).number = row.number
  cells : ∀ row x, (∀ k < i, x ≠ flagName k) → (g row).cell x = row.cell x
  columns : ∀ x, (∀ k < i, x ≠ flagName k) → (x ∈ flagged.columns ↔ x ∈ left.columns)
  nested : ∀ x, (∀ k < i, x ≠ flagName k) → flagged.nested x = left.nested x
  fresh : ∀ x ∈ flagged.columns, ∀ k, i ≤ k → spark.sameName x (flagName k) = false

theorem Flagging.refl {left : Frame ν} (hfree : FlagFree spark left.columns) :
    Flagging spark left left 0 id where
  rows := (List.map_id _).symm
  number := fun _ => rfl
  cells := fun _ _ _ => rfl
  columns := fun _ _ => Iff.rfl
  nested := fun _ _ => rfl
  fresh := fun x hx k _ => hfree x hx k

section

variable {left flagged : Frame ν} {i : Nat} {g : Row ν → Row ν}

/-- A name that is no flag is found where it was. -/
theorem Flagging.resolve (h : Flagging spark left flagged i g) {name : Value}
    (hname : ∀ k < i, host.textOf name ≠ flagName k) :
    resolveColumnName host flagged.columns name = resolveColumnName host left.columns name ∧
      ∀ k < i, resolveColumnName host left.columns name ≠ flagName k := by
  have hnorm : ∀ k < i, normalizeName host (.str (host.textOf name)) ≠ flagName k :=
    fun k _ => normalizeName_ne_flag host _ k
  unfold resolveColumnName
  simp only [h.columns _ hname, h.columns _ hnorm, true_and]
  intro k hk
  split_ifs
  · exact hname k hk
  · exact hnorm k hk
  · intro hempty
    have hhead := flagName_head k
    rw [← hempty] at hhead
    exact nomatch hhead

/-- The rule reads the column that it would read without the flags. -/
theorem Flagging.source (h : Flagging spark left flagged i g) {name : Value}
    (hname : ∀ k < i, host.textOf name ≠ flagName k) :
    sourceColumn flagged (resolveColumnName host flagged.columns name) =
      sourceColumn left (resolveColumnName host left.columns name) := by
  obtain ⟨hresolve, hne⟩ := h.resolve hname
  rw [hresolve]
  unfold sourceColumn Frame.col
  rw [h.nested _ hne]

theorem Flagging.same (h : Flagging spark left flagged i g) {name : Value}
    (hname : ∀ k < i, host.textOf name ≠ flagName k) (row : Row ν) :
    (sourceColumn left (resolveColumnName host left.columns name)).Same (g row) row := by
  obtain ⟨-, hne⟩ := h.resolve hname
  unfold sourceColumn
  split
  · exact rfl
  · exact h.cells row _ hne

theorem truthOn_eq_verdict {rule : Value} {condition : Column ν} {reason : String}
    (h : (qualityFailureCondition host spark left rule : Except RuleFailure _) =
      .ok (condition, reason)) (row : Row ν) :
    condition.truthOn row = some (verdict host spark left rule row) := by
  obtain ⟨b, hb⟩ := certain_quality row h
  unfold verdict
  rw [h]
  dsimp only
  rw [hb, Kleene.holds_some]

/-- A rule's condition, evaluated beside the flags, is its verdict. -/
theorem Flagging.judged (h : Flagging spark left flagged i g) {rule : Value}
    (hname : ∀ k < i, host.textOf (inputName rule) ≠ flagName k) {condition : Column ν}
    {reason : String} (hok : (qualityFailureCondition host spark flagged rule :
      Except RuleFailure _) = .ok (condition, reason)) (row : Row ν) :
    condition.value (g row) = some (.bool (verdict host spark left rule row)) := by
  rw [qualityFailureCondition_congr (h.source hname)] at hok
  have htruth : condition.truthOn (g row) = some (verdict host spark left rule row) :=
    ((same_quality hok (h.same hname row)).truthOn).trans (truthOn_eq_verdict hok row)
  unfold Column.truthOn truth at htruth
  split at htruth
  · rename_i b hb
    rw [hb, Option.some.inj htruth]
  · exact nomatch htruth

theorem Frame.columnsWith_of_fresh {name : String}
    (h : ∀ x ∈ flagged.columns, spark.sameName x name = false) :
    flagged.columnsWith spark name = flagged.columns ++ [name] := by
  unfold Frame.columnsWith
  rw [if_neg]
  rw [List.any_eq_true]
  rintro ⟨x, hx, hsame⟩
  rw [h x hx] at hsame
  exact nomatch hsame

/-- One more flag. -/
theorem Flagging.flag (h : Flagging spark left flagged i g) (c : Column ν) :
    Flagging spark left (flagged.withColumn spark (flagName i) c) (i + 1) fun row =>
      { number := (g row).number
        cell := fun x => if x = flagName i then c.value (g row) else (g row).cell x } := by
  have hcolumns := Frame.columnsWith_of_fresh (fun x hx => h.fresh x hx i (Nat.le_refl i))
  have hbelow : ∀ {x : String}, (∀ k < i + 1, x ≠ flagName k) →
      (∀ k < i, x ≠ flagName k) ∧ x ≠ flagName i :=
    fun hx => ⟨fun k hk => hx k (by omega), hx i (by omega)⟩
  refine ⟨?_, fun row => h.number row, fun row x hx => ?_, fun x hx => ?_, fun x hx => ?_,
    fun x hx k hk => ?_⟩
  · unfold Frame.withColumn
    dsimp only
    rw [h.rows, List.map_map]
    rfl
  · dsimp only
    rw [if_neg (hbelow hx).2]
    exact h.cells row x (hbelow hx).1
  · change x ∈ flagged.columnsWith spark (flagName i) ↔ x ∈ left.columns
    rw [hcolumns, List.mem_append, List.mem_singleton, h.columns x (hbelow hx).1]
    exact or_iff_left (hbelow hx).2
  · change (if x = flagName i then c.nested else flagged.nested x) = left.nested x
    rw [if_neg (hbelow hx).2]
    exact h.nested x (hbelow hx).1
  · change x ∈ flagged.columnsWith spark (flagName i) at hx
    rw [hcolumns] at hx
    rcases List.mem_append.mp hx with hold | hnew
    · exact h.fresh x hold k (by omega)
    · rw [List.mem_singleton.mp hnew, Bool.eq_false_iff]
      intro hsame
      have := sameName_flagName hsame
      omega

end

/-- The flags of the rules, numbered from `i`. -/
def FlagsFrom : Nat → List Value → List Flagged → Prop
  | _, [], [] => True
  | i, rule :: rules, f :: flags =>
      f.rule = rule ∧ f.flag = flagName i ∧ FlagsFrom (i + 1) rules flags
  | _, _, _ => False

/-- A run of the loop that adds the flags: the verdicts stand in the flags. -/
theorem flagRules_ok {left : Frame ν} (qualityRules : List Value) :
    ∀ {i : Nat} {flagged flagged' : Frame ν} {flags : List Flagged} {g : Row ν → Row ν},
      Flagging spark left flagged i g →
      (∀ j rule, qualityRules[j]? = some rule →
        ∀ k < i + j, host.textOf (inputName rule) ≠ flagName k) →
      flagRules host spark i flagged qualityRules = .ok (flagged', flags) →
      ∃ g', Flagging spark left flagged' (i + qualityRules.length) g' ∧
        FlagsFrom i qualityRules flags ∧
        (∀ j rule, qualityRules[j]? = some rule → ∀ row,
          (g' row).cell (flagName (i + j)) = some (.bool (verdict host spark left rule row))) ∧
        ∀ row x, (∀ k, i ≤ k → x ≠ flagName k) → (g' row).cell x = (g row).cell x := by
  induction qualityRules with
  | nil =>
      intro i flagged flagged' flags g hflag _ h
      cases h
      exact ⟨g, hflag, trivial, fun j rule hj => (nomatch hj), fun _ _ _ => rfl⟩
  | cons rule rules ih =>
      intro i flagged flagged' flags g hflag hreads h
      unfold flagRules at h
      obtain ⟨⟨condition, reason⟩, hcondition, h⟩ := bind_eq_ok.mp h
      obtain ⟨⟨last, rest⟩, hrest, h⟩ := bind_eq_ok.mp h
      cases pure_eq_ok.mp h
      have hname : ∀ k < i, host.textOf (inputName rule) ≠ flagName k := hreads 0 rule rfl
      have hreads' : ∀ j r, rules[j]? = some r →
          ∀ k < i + 1 + j, host.textOf (inputName r) ≠ flagName k := by
        intro j r hj k hk
        exact hreads (j + 1) r hj k (by omega)
      obtain ⟨g', hflag', hflags, hverdicts, hkept⟩ := ih (hflag.flag condition) hreads' hrest
      refine ⟨g', ?_, ⟨rfl, rfl, hflags⟩, ?_, ?_⟩
      · rw [List.length_cons]
        exact (by omega : i + 1 + rules.length = i + (rules.length + 1)) ▸ hflag'
      · intro j r hj row
        cases j with
        | zero =>
            cases hj
            rw [Nat.add_zero, hkept row _ fun k hk heq => by
              have := flagName_injective heq
              omega]
            dsimp only
            rw [if_pos rfl]
            exact hflag.judged hname hcondition row
        | succ j =>
            have := hverdicts j r hj row
            rwa [(by omega : i + 1 + j = i + (j + 1))] at this
      · intro row x hx
        rw [hkept row x fun k hk => hx k (by omega)]
        dsimp only
        rw [if_neg (hx i (Nat.le_refl i))]

/-! ## The actions -/

/-- The frame between two actions beside the rows that the verdicts leave: `h` is what became of
a row, and the flags of the rules that are still to act hold their verdicts. -/
structure Acting (host : Host) (spark : Spark ν) (left : Frame ν) (base : List Nat)
    (evaluated : Option Int) (s : Judging ν) (settled : Settled ν) (i : Nat)
    (rules : List Value) : Prop where
  quarantine : quarantinedNumbers s.quarantine = base ++ settled.quarantined.map Row.number
  quarantinedCount : s.stats.quarantinedCount = settled.quarantined.length
  droppedCount : s.stats.droppedCount = settled.dropped.length
  setNullCount : s.stats.setNullCount = settled.setNullCount
  warnCount : s.stats.warnCount = settled.warnCount
  evaluatedRowCount : s.stats.evaluatedRowCount = evaluated
  rows : ∃ h : Row ν → Row ν, s.current.rows = settled.rows.map h ∧
    (∀ row, (h row).number = row.number) ∧
      ∀ j rule, rules[j]? = some rule → ∀ row,
        (h row).cell (flagName (i + j)) = some (.bool (verdict host spark left rule row))

theorem settleRule_of_none {left : Frame ν} {s : Settled ν} {rule : Value}
    (h : s.rows.filter (verdict host spark left rule) = []) :
    settleRule host spark left s rule = s := by
  have hpassing : (s.rows.filter fun row => !verdict host spark left rule row) = s.rows := by
    rw [List.filter_eq_self]
    intro row hrow
    simpa using List.filter_eq_nil_iff.mp h row hrow
  unfold settleRule
  rw [h, hpassing]
  cases failureAction rule <;> simp

/-- A name that is not the name of a flag is not found at the flag. -/
theorem resolveColumnName_ne_flag {columns : List String} {name : Value} {k : Nat}
    (h : host.textOf name ≠ flagName k) : flagName k ≠ resolveColumnName host columns name := by
  unfold resolveColumnName
  split_ifs
  · exact h.symm
  · exact (normalizeName_ne_flag host _ k).symm
  · intro hempty
    have hhead := flagName_head k
    rw [hempty] at hhead
    exact nomatch hhead

section

variable {left : Frame ν} {base : List Nat} {evaluated : Option Int} {settled : Settled ν}
  {rule : Value} {rules : List Value}

/-- The action of one rule does to the frame what its verdicts do to the rows. -/
theorem Acting.step {s : Judging ν} {i : Nat} {f : Flagged}
    (hs : Acting host spark left base evaluated s settled i (rule :: rules))
    (hrule : f.rule = rule) (hflag : f.flag = flagName i)
    (hsafe : failureAction rule = .setNull →
      ∀ k, i < k → k < i + 1 + rules.length → host.textOf (inputName rule) ≠ flagName k) :
    Acting host spark left base evaluated (qualityStep host spark s f)
      (settleRule host spark left settled rule) (i + 1) rules := by
  obtain ⟨h, hrows, hnumber, hverdicts⟩ := hs.rows
  have htruth : ∀ row, f.invalid.truthOn (h row) = some (verdict host spark left rule row) := by
    intro row
    have := hverdicts 0 rule rfl row
    unfold Flagged.invalid Column.named Column.truthOn
    rw [hflag]
    dsimp only
    rw [Nat.add_zero] at this
    rw [this]
    rfl
  have hnext : ∀ j r, rules[j]? = some r → ∀ row,
      (h row).cell (flagName (i + 1 + j)) = some (.bool (verdict host spark left r row)) := by
    intro j r hj row
    have := hverdicts (j + 1) r hj row
    rwa [(by omega : i + (j + 1) = i + 1 + j)] at this
  have hfailing : (s.current.filter f.invalid).rows =
      (settled.rows.filter (verdict host spark left rule)).map h := by
    unfold Frame.filter
    dsimp only
    rw [hrows, List.filter_map]
    congr 1
    refine List.filter_congr fun row _ => ?_
    rw [Function.comp_apply, htruth, Kleene.holds_some]
  have hpassing : (s.current.filter f.invalid.not).rows =
      (settled.rows.filter fun row => !verdict host spark left rule row).map h := by
    unfold Frame.filter
    dsimp only
    rw [hrows, List.filter_map]
    congr 1
    refine List.filter_congr fun row _ => ?_
    rw [Function.comp_apply, Column.truthOn_not, htruth, Kleene.not_some, Kleene.holds_some]
  have hcount : (s.current.filter f.invalid).count =
      (settled.rows.filter (verdict host spark left rule)).length := by
    unfold Frame.count
    rw [hfailing, List.length_map]
  have hnumbers : (s.current.filter f.invalid).numbers =
      (settled.rows.filter (verdict host spark left rule)).map Row.number := by
    unfold Frame.numbers
    rw [hfailing, List.map_map]
    exact List.map_congr_left fun row _ => hnumber row
  unfold qualityStep
  dsimp only
  by_cases hnone : (s.current.filter f.invalid).count = 0
  · rw [if_pos hnone, settleRule_of_none (List.length_eq_zero_iff.mp (hcount.symm.trans hnone))]
    exact { hs with rows := ⟨h, hrows, hnumber, hnext⟩ }
  · rw [if_neg hnone, hrule]
    unfold settleRule
    dsimp only
    cases haction : failureAction rule with
    | quarantine =>
        exact
          { quarantine := by
              rw [quarantinedNumbers_append, numbers_quarantineRows, hs.quarantine, hnumbers,
                List.map_append, List.append_assoc]
            quarantinedCount := by
              dsimp only
              rw [hs.quarantinedCount, hcount, List.length_append]
            droppedCount := hs.droppedCount
            setNullCount := hs.setNullCount
            warnCount := hs.warnCount
            evaluatedRowCount := hs.evaluatedRowCount
            rows := ⟨h, hpassing, hnumber, hnext⟩ }
    | dropRow =>
        exact
          { hs with
            droppedCount := by
              dsimp only
              rw [hs.droppedCount, hcount, List.length_append]
            rows := ⟨h, hpassing, hnumber, hnext⟩ }
    | setNull =>
        refine
          { hs with
            setNullCount := by
              dsimp only
              rw [hs.setNullCount, hcount]
            rows := ?_ }
        dsimp only
        split
        · exact ⟨h, hrows, hnumber, hnext⟩
        · let target := resolveColumnName host s.current.columns (inputName rule)
          let nulled := Column.when f.invalid .litNull (s.current.col target)
          refine ⟨fun row => ⟨(h row).number, fun x =>
            if x = target then nulled.value (h row) else (h row).cell x⟩, ?_, hnumber, ?_⟩
          · unfold Frame.withColumn
            dsimp only
            rw [hrows, List.map_map]
            rfl
          · intro j r hj row
            dsimp only
            have hlt : j < rules.length := (List.getElem?_eq_some_iff.mp hj).1
            rw [if_neg (resolveColumnName_ne_flag (hsafe haction _ (by omega) (by omega)))]
            exact hnext j r hj row
    | keep =>
        exact
          { hs with
            warnCount := by
              dsimp only
              rw [hs.warnCount, hcount]
            rows := ⟨h, hrows, hnumber, hnext⟩ }
    | failBatch =>
        exact
          { hs with
            warnCount := by
              dsimp only
              rw [hs.warnCount, hcount]
            rows := ⟨h, hrows, hnumber, hnext⟩ }

end

/-- A run of the actions. -/
theorem Acting.run {left : Frame ν} {base : List Nat} {evaluated : Option Int}
    (rules : List Value) :
    ∀ {i : Nat} {s : Judging ν} {settled : Settled ν} {flags : List Flagged},
      Acting host spark left base evaluated s settled i rules → FlagsFrom i rules flags →
      (∀ j rule, rules[j]? = some rule → failureAction rule = .setNull →
        ∀ k, i + j < k → k < i + rules.length → host.textOf (inputName rule) ≠ flagName k) →
      Acting host spark left base evaluated (flags.foldl (qualityStep host spark) s)
        (rules.foldl (settleRule host spark left) settled) (i + rules.length) [] := by
  induction rules with
  | nil =>
      intro i s settled flags hs hflags _
      cases flags with
      | nil => exact hs
      | cons f flags => exact hflags.elim
  | cons rule rules ih =>
      intro i s settled flags hs hflags hsafe
      cases flags with
      | nil => exact hflags.elim
      | cons f flags =>
          obtain ⟨hrule, hflag, hrest⟩ := hflags
          have hstep := hs.step hrule hflag fun haction k hk hn =>
            hsafe 0 rule rfl haction k (by omega) (by rw [List.length_cons]; omega)
          have hrun := ih hstep hrest fun j r hj haction k hk hn =>
            hsafe (j + 1) r hj haction k (by omega) (by rw [List.length_cons]; omega)
          rw [(by rw [List.length_cons]; omega : i + (rule :: rules).length = i + 1 + rules.length)]
          exact hrun

/-! ## What is left to the caller -/

/-- The rule's own data make `float` or `re.compile` raise what the module does not catch: a bound
that no `float` can hold, a pattern whose repetition count is too large. -/
def Uncaught (host : Host) (rule : Value) : Prop :=
  host.textOf (rule.get "operation") = "range" ∧
      (bound host ((parametersOf rule).get "min") = .raised ∨
        bound host ((parametersOf rule).get "max") = .raised) ∨
    host.textOf (rule.get "operation") = "regex" ∧
      host.compilePattern (host.textOf ((parametersOf rule).get "pattern")) = .raised

/-- No quality rule reads the flag of an earlier one, and none sets the flag of a later one to
`NULL`: a rule at `i` whose input has the name of the flag `k`. -/
def ReadsNoFlag (host : Host) (rules : List Value) : Prop :=
  ∀ i rule, (rulesOf "quality" rules)[i]? = some rule →
    ∀ k < (rulesOf "quality" rules).length, host.textOf (inputName rule) = flagName k →
      i ≤ k ∧ (i < k → failureAction rule ≠ .setNull)

theorem qualityFailureCondition_returns {frame : Frame ν} {rule : Value}
    (h : ¬ Uncaught host rule) : ∃ condition reason,
      (qualityFailureCondition host spark frame rule : Except RuleFailure _) =
        .ok (condition, reason) := by
  unfold qualityFailureCondition
  dsimp only
  split_ifs with hnull hrange habsent hregex hpattern haccepted hvalues
  · exact ⟨_, _, rfl⟩
  · exact ⟨_, _, rfl⟩
  · split
    · rename_i hlow
      exact absurd (Or.inl ⟨hrange, Or.inl hlow⟩) h
    · exact ⟨_, _, rfl⟩
    · split
      · rename_i hhigh
        exact absurd (Or.inl ⟨hrange, Or.inr hhigh⟩) h
      · exact ⟨_, _, rfl⟩
      · exact ⟨_, _, rfl⟩
  · exact ⟨_, _, rfl⟩
  · split
    · rename_i hraised
      exact absurd (Or.inr ⟨hregex, hraised⟩) h
    · exact ⟨_, _, rfl⟩
    · exact ⟨_, _, rfl⟩
  · exact ⟨_, _, rfl⟩
  · exact ⟨_, _, rfl⟩
  · exact ⟨_, _, rfl⟩

theorem flagRules_returns (rules : List Value) (h : ∀ rule ∈ rules, ¬ Uncaught host rule) :
    ∀ i (flagged : Frame ν), ∃ result, flagRules host spark i flagged rules = .ok result := by
  induction rules with
  | nil => exact fun i flagged => ⟨_, rfl⟩
  | cons rule rules ih =>
      intro i flagged
      obtain ⟨condition, reason, hcondition⟩ :=
        @qualityFailureCondition_returns ν host spark flagged rule (h rule List.mem_cons_self)
      obtain ⟨⟨last, flags⟩, hrest⟩ := ih (fun r hr => h r (List.mem_cons_of_mem _ hr)) (i + 1)
        (flagged.withColumn spark (flagName i) condition)
      refine ⟨(last, ⟨rule, flagName i, reason⟩ :: flags), ?_⟩
      unfold flagRules
      exact bind_eq_ok.mpr ⟨_, hcondition, bind_eq_ok.mpr ⟨_, hrest, rfl⟩⟩

/-! ## Blocking rules -/

theorem FlagsFrom.rule_of_mem {rules : List Value} : ∀ {i : Nat} {flags : List Flagged},
    FlagsFrom i rules flags → ∀ f ∈ flags,
      ∃ j rule, rules[j]? = some rule ∧ f.rule = rule ∧ f.flag = flagName (i + j) := by
  induction rules with
  | nil =>
      intro i flags h f hf
      cases flags with
      | nil => exact nomatch hf
      | cons g flags => exact h.elim
  | cons rule rules ih =>
      intro i flags h f hf
      cases flags with
      | nil => exact h.elim
      | cons g flags =>
          rcases List.mem_cons.mp hf with rfl | hf
          · exact ⟨0, rule, rfl, h.1, h.2.1⟩
          · obtain ⟨j, r, hj, hr, hflag⟩ := ih h.2.2 f hf
            exact ⟨j + 1, r, hj, hr, by rw [hflag]; congr 1; omega⟩

theorem FlagsFrom.flag_of_mem {rules : List Value} : ∀ {i : Nat} {flags : List Flagged},
    FlagsFrom i rules flags → ∀ rule ∈ rules,
      ∃ f ∈ flags, f.rule = rule ∧ ∃ j, rules[j]? = some rule ∧ f.flag = flagName (i + j) := by
  induction rules with
  | nil => exact fun _ rule hrule => nomatch hrule
  | cons first rules ih =>
      intro i flags h rule hrule
      cases flags with
      | nil => exact h.elim
      | cons g flags =>
          rcases List.mem_cons.mp hrule with rfl | hrule
          · exact ⟨g, List.mem_cons_self, h.1, 0, rfl, h.2.1⟩
          · obtain ⟨f, hf, hr, j, hj, hflag⟩ := ih h.2.2 rule hrule
            exact ⟨f, List.mem_cons_of_mem _ hf, hr, j + 1, hj, by rw [hflag]; congr 1; omega⟩

/-- The rows on a flag are the rows that the verdict is against. -/
theorem count_flag_ne_zero {left flagged : Frame ν} {g : Row ν → Row ν} {f : Flagged}
    {rule : Value} (hrows : flagged.rows = left.rows.map g)
    (hflag : ∀ row, (g row).cell f.flag = some (.bool (verdict host spark left rule row))) :
    (flagged.filter f.invalid).count ≠ 0 ↔
      ∃ row ∈ left.rows, verdict host spark left rule row = true := by
  have htruth : ∀ row, f.invalid.truthOn (g row) = some (verdict host spark left rule row) := by
    intro row
    unfold Flagged.invalid Column.named Column.truthOn
    dsimp only
    rw [hflag row]
    rfl
  unfold Frame.count Frame.filter
  dsimp only
  rw [hrows, List.filter_map, List.length_map, ne_eq, List.length_eq_zero_iff,
    List.filter_eq_nil_iff]
  simp only [not_forall, not_not, exists_prop]
  constructor
  · rintro ⟨row, hrow, hholds⟩
    rw [Function.comp_apply, htruth, Kleene.holds_some] at hholds
    exact ⟨row, hrow, hholds⟩
  · rintro ⟨row, hrow, hholds⟩
    refine ⟨row, hrow, ?_⟩
    rw [Function.comp_apply, htruth, Kleene.holds_some]
    exact hholds

/-! ## Raising -/

section

variable {frame : Frame ν} {rules : List Value} {inputRowCount : Option Int}

theorem transformStep_error {quality : QualityStats} {s : Transforming ν} {rule : Value}
    {failure : RuleFailure} (h : transformStep host spark quality s rule = .error failure) :
    outputName host rule ≠ "" ∧ failureAction rule = .failBatch ∧
      (invalidRows host spark s rule).count ≠ 0 ∧ ∃ error, failure = .rule error := by
  by_cases houtput : outputName host rule = ""
  · rw [transformStep_of_no_output houtput] at h
    exact nomatch h
  · rw [transformStep_of_output houtput] at h
    unfold applyTransform at h
    dsimp only at h
    by_cases hcount :
        (s.current.filter (transformExpression host spark s.current rule).invalid).count = 0
    · rw [if_pos hcount] at h
      exact nomatch h
    · rw [if_neg hcount] at h
      cases haction : failureAction rule with
      | failBatch =>
          rw [haction] at h
          cases h
          exact ⟨houtput, rfl, hcount, _, rfl⟩
      | quarantine => rw [haction] at h; exact nomatch h
      | dropRow => rw [haction] at h; exact nomatch h
      | setNull => rw [haction] at h; exact nomatch h
      | keep => rw [haction] at h; exact nomatch h

/-- The transforms raise at one of them. -/
theorem transforms_error {failure : RuleFailure} (transforms : List Value) :
    ∀ {s : Transforming ν},
      transforms.foldlM (transformStep host spark (startQuality rules)) s = .error failure →
      ∃ pre rule post s', transforms = pre ++ rule :: post ∧
        pre.foldlM (transformStep host spark (startQuality rules)) s = .ok s' ∧
        transformStep host spark (startQuality rules) s' rule = .error failure := by
  induction transforms with
  | nil => exact fun h => nomatch h
  | cons rule rest ih =>
      intro s h
      rw [List.foldlM_cons] at h
      cases hstep : transformStep host spark (startQuality rules) s rule with
      | error e =>
          rw [bind_of_error hstep] at h
          cases h
          exact ⟨[], rule, rest, s, rfl, rfl, hstep⟩
      | ok next =>
          rw [hstep] at h
          obtain ⟨pre, r, post, s', hlist, hpre, herror⟩ := ih h
          refine ⟨rule :: pre, r, post, s', by rw [hlist]; rfl, ?_, herror⟩
          rw [List.foldlM_cons]
          exact bind_eq_ok.mpr ⟨next, hstep, hpre⟩

/-- An evaluated transform did not raise in transforms that returned. -/
theorem Evaluated.step_ok {rule : Value} {s left : Transforming ν}
    (h : Evaluated host spark frame rules inputRowCount rule s)
    (hleft : Transforms host spark frame rules inputRowCount (rulesOf "transform" rules) left) :
    ∃ s', applyTransform host spark (startQuality rules) s rule = .ok s' := by
  obtain ⟨pre, post, hlist, hs, houtput⟩ := h
  unfold Transforms at hleft hs
  rw [hlist, List.foldlM_append] at hleft
  obtain ⟨s₁, hs₁, hrest⟩ := bind_eq_ok.mp hleft
  cases hs₁.symm.trans hs
  rw [List.foldlM_cons] at hrest
  obtain ⟨s', hstep, -⟩ := bind_eq_ok.mp hrest
  rw [transformStep_of_output houtput] at hstep
  exact ⟨s', hstep⟩

theorem failsBatch_iff_of_transforms {left : Transforming ν}
    (hleft : Transforms host spark frame rules inputRowCount (rulesOf "transform" rules) left) :
    FailsBatch host spark frame rules inputRowCount ↔
      ∃ rule ∈ rulesOf "quality" rules, failureAction rule = .failBatch ∧
        ∃ row ∈ left.current.rows, verdict host spark left.current rule row = true := by
  constructor
  · rintro (⟨rule, s, heval, haction, hcount⟩ | ⟨s, hs, hrule⟩)
    · obtain ⟨s', hstep⟩ := heval.step_ok hleft
      exact absurd ⟨haction, hcount⟩ (applyTransform_ok hstep).2
    · cases hs.symm.trans hleft
      exact hrule
  · intro hrule
    exact Or.inr ⟨left, hleft, hrule⟩

end

theorem quarantinedNumbers_drop (quarantine : Option (Frame ν)) (names : List String) :
    quarantinedNumbers (quarantine.map fun rows => rows.drop spark names) =
      quarantinedNumbers quarantine := by
  cases quarantine <;> rfl

/-- The end of the actions is the end of the batch. -/
theorem conserved_of_acting {frame : Frame ν} {rules : List Value} {inputRowCount : Option Int}
    {left : Transforming ν} {dropped : List Nat} {judged : Judging ν} {status : QualityStatus}
    {flags : List String} {n : Nat}
    (hleft : Transforms host spark frame rules inputRowCount (rulesOf "transform" rules) left)
    (haccount : TransformAccount host spark frame rules inputRowCount left dropped)
    (hrun : Acting host spark left.current (quarantinedNumbers left.quarantine)
      (some (left.currentRowCount.getD left.current.count)) judged
      (settle host spark left.current (rulesOf "quality" rules)) n []) :
    Conserved host spark frame rules inputRowCount
      { frame := (judged.current.drop spark flags).drop spark [rowIdName]
        quarantine := judged.quarantine.map fun rows => rows.drop spark [rowIdName]
        transform := left.stats
        quality := { judged.stats with status } } left dropped := by
  obtain ⟨h, hrows, hnumber, -⟩ := hrun.rows
  have hnumbers : judged.current.numbers =
      (settle host spark left.current (rulesOf "quality" rules)).rows.map Row.number := by
    unfold Frame.numbers
    rw [hrows, List.map_map]
    exact List.map_congr_left fun row _ => hnumber row
  have hquarantine : quarantinedNumbers (judged.quarantine.map fun rows =>
      rows.drop spark [rowIdName]) = quarantinedNumbers left.quarantine ++
        (settle host spark left.current (rulesOf "quality" rules)).quarantined.map Row.number :=
    (quarantinedNumbers_drop _ _).trans hrun.quarantine
  have hperm : (judged.current.numbers ++ ((quarantinedNumbers left.quarantine ++
      (settle host spark left.current (rulesOf "quality" rules)).quarantined.map Row.number) ++
        (dropped ++ (settle host spark left.current (rulesOf "quality" rules)).dropped.map
          Row.number))).Perm frame.numbers := by
    refine List.Perm.trans ?_ haccount.rows
    have hsettle := Multiset.coe_eq_coe.mpr
      ((settle_perm host spark left.current (rulesOf "quality" rules)).map Row.number)
    rw [← Multiset.coe_eq_coe, hnumbers]
    simp only [List.map_append, ← Multiset.coe_add] at hsettle ⊢
    rw [Frame.numbers, ← hsettle]
    abel
  have hevaluated : left.currentRowCount.getD left.current.count = (left.current.count : Int) := by
    cases hc : left.currentRowCount with
    | none => rfl
    | some m => exact haccount.counted m hc
  have hlength := hperm.length_eq
  simp only [List.length_append, List.length_map, Frame.length_numbers] at hlength
  refine
    { transforms := hleft
      rows := ?_
      transformDropped := haccount.droppedCount
      transformQuarantined := haccount.quarantinedCount
      droppedBy := haccount.droppedBy
      quarantinedBy := haccount.quarantinedBy
      judgedOutput := hnumbers
      judgedQuarantine := hquarantine
      judgedCounts :=
        ⟨hrun.quarantinedCount, hrun.droppedCount, hrun.setNullCount, hrun.warnCount⟩
      evaluated := by
        dsimp only
        rw [hrun.evaluatedRowCount, hevaluated]
      total := ?_
      quarantineTotal := ?_ }
  · dsimp only
    rw [hquarantine]
    exact hperm
  · dsimp only
    rw [hquarantine, List.length_append, List.length_map, haccount.droppedCount,
      hrun.droppedCount]
    change judged.current.count + _ + _ + _ = _
    omega
  · dsimp only
    rw [hquarantine, List.length_append, List.length_map, haccount.quarantinedCount,
      hrun.quarantinedCount]

/-- The quality stage of transforms that returned. -/
theorem applyQuality_conserves [DecidableEq ν] {frame : Frame ν} {rules : List Value}
    {inputRowCount : Option Int} {left : Transforming ν} {dropped : List Nat}
    (hleft : Transforms host spark frame rules inputRowCount (rulesOf "transform" rules) left)
    (haccount : TransformAccount host spark frame rules inputRowCount left dropped)
    (hfree : FlagFree spark left.current.columns) (hreads : ReadsNoFlag host rules)
    (hcaught : ∀ rule ∈ rulesOf "quality" rules, ¬ Uncaught host rule) :
    match applyQuality host spark left (rulesOf "quality" rules) with
    | .error failure =>
        (∃ error, failure = .rule error) ∧ FailsBatch host spark frame rules inputRowCount
    | .ok result =>
        ¬ FailsBatch host spark frame rules inputRowCount ∧
          ∃ left dropped, Conserved host spark frame rules inputRowCount result left dropped := by
  obtain ⟨⟨flagged, flags⟩, hflagged⟩ :=
    @flagRules_returns ν host spark (rulesOf "quality" rules) hcaught 0 left.current
  have hearlier : ∀ j rule, (rulesOf "quality" rules)[j]? = some rule →
      ∀ k < 0 + j, host.textOf (inputName rule) ≠ flagName k := by
    intro j rule hj k hk hname
    have hlt : j < (rulesOf "quality" rules).length := (List.getElem?_eq_some_iff.mp hj).1
    have := (hreads j rule hj k (by omega) hname).1
    omega
  obtain ⟨g, hflagging, hflags, hverdicts, -⟩ :=
    flagRules_ok (rulesOf "quality" rules) (Flagging.refl hfree) hearlier hflagged
  unfold applyQuality
  rw [hflagged]
  dsimp only [Bind.bind, Except.bind]
  cases hblock : (blockingCounts flagged flags).find? fun b => b.2 ≠ 0 with
  | some blocking =>
      obtain ⟨f, n⟩ := blocking
      refine ⟨⟨_, rfl⟩, (failsBatch_iff_of_transforms hleft).mpr ?_⟩
      have hne : n ≠ 0 := by simpa using List.find?_some hblock
      obtain ⟨f', hf', heq⟩ := List.mem_map.mp (List.mem_of_find?_eq_some hblock)
      cases heq
      obtain ⟨hmem, haction⟩ := List.mem_filter.mp hf'
      obtain ⟨j, rule, hj, hrule, hflag⟩ := hflags.rule_of_mem f hmem
      refine ⟨rule, List.mem_of_getElem? hj, ?_, ?_⟩
      · rw [← hrule]
        exact of_decide_eq_true haction
      · exact (count_flag_ne_zero hflagging.rows fun row => by
          rw [hflag]; exact hverdicts j rule hj row).mp hne
  | none =>
      have hnone := List.find?_eq_none.mp hblock
      refine ⟨fun hfails => ?_, left, dropped, ?_⟩
      · obtain ⟨rule, hrule, haction, hrow⟩ := (failsBatch_iff_of_transforms hleft).mp hfails
        obtain ⟨f, hf, hfrule, j, hj, hflag⟩ := hflags.flag_of_mem rule hrule
        have hcount := (count_flag_ne_zero (f := f) hflagging.rows fun row => by
          rw [hflag]; exact hverdicts j rule hj row).mpr hrow
        have hmem : (f, (flagged.filter f.invalid).count) ∈ blockingCounts flagged flags :=
          List.mem_map.mpr ⟨f, List.mem_filter.mpr ⟨hf, by
            rw [hfrule]; exact decide_eq_true haction⟩, rfl⟩
        exact hnone _ hmem (decide_eq_true hcount)
      · have hacting : Acting host spark left.current (quarantinedNumbers left.quarantine)
            (some (left.currentRowCount.getD left.current.count))
            ⟨flagged, left.quarantine,
              { configuredRuleCount := (rulesOf "quality" rules).length
                evaluatedRowCount := some (left.currentRowCount.getD left.current.count)
                invalidRowCount := if flags = [] then 0 else invalidRowCount flagged flags
                blockingFailures := ((blockingCounts flagged flags).map Prod.snd).sum }⟩
            { rows := left.current.rows } 0 (rulesOf "quality" rules) :=
          { quarantine := (List.append_nil _).symm
            quarantinedCount := rfl
            droppedCount := rfl
            setNullCount := rfl
            warnCount := rfl
            evaluatedRowCount := rfl
            rows := ⟨g, hflagging.rows, hflagging.number, hverdicts⟩ }
        have hrun := hacting.run (rulesOf "quality" rules) hflags
          fun j rule hj haction k hjk hk hname =>
            (hreads j rule hj k (by omega) hname).2 (by omega) haction
        exact conserved_of_acting hleft haccount hrun

/-- No column is named `__asklake_*`, as Spark compares names. -/
def NoReservedColumn (spark : Spark ν) (columns : List String) : Prop :=
  ∀ column ∈ columns, ∀ name : String, "__asklake_".toList <+: name.toList →
    spark.sameName column name = false

theorem NoReservedColumn.flagFree {columns : List String} (h : NoReservedColumn spark columns) :
    FlagFree spark columns := by
  intro column hcolumn index
  refine h column hcolumn _ ?_
  rw [toList_flagName]
  exact ⟨"quality_failure_".toList ++ index.repr.toList, rfl⟩

section

/-- An interpreter for ASCII text. -/
def plainHost : Host where
  str := fun _ => ""
  float := fun _ => .refused
  compilePattern := fun _ => .done ()
  lower := asciiLower
  upper := asciiUpper
  lower_ascii := asciiLower_agrees
  upper_ascii := asciiUpper_agrees

theorem toLower_underscore (c : Char) (h : c.toLower = '_') : c = '_' := by
  delta Char.toLower at h
  split at h
  · rename_i hupper
    have hval := congrArg Char.toNat h
    have hle : (65 : Nat) ≤ c.toNat := hupper.1
    have hlt : c.toNat ≤ 90 := hupper.2
    change (c.val + 32).toNat = 95 at hval
    rw [UInt32.toNat_add] at hval
    change (c.toNat + 32) % 4294967296 = 95 at hval
    omega
  · exact h

/-- A session over texts and numbers that parses nothing. -/
def plainSpark : Spark Nat where
  fold := Char.toLower
  fold_ascii := fun _ _ => rfl
  fold_underscore := toLower_underscore
  string := Nat.repr
  cast := fun _ _ => none
  lower := asciiLower
  toTimestamp := fun _ => none
  toDate := fun _ => none
  rlike := fun _ _ => false
  regexpReplace := fun s _ _ => s
  getJsonObject := fun _ _ => none
  toJson := fun _ => ""
  record := fun _ => ""
  compare := fun _ _ _ => false
  lit := fun _ => none
  rowId := id

/-- Two rows: the first has no `a`, the second has no `b`. -/
def twoRows : Frame Nat where
  columns := ["a", "b"]
  nested := fun _ => false
  rows := [⟨0, fun x => if x = "b" then some (.text "x") else none⟩,
    ⟨1, fun x => if x = "a" then some (.text "v") else none⟩]

def copyRule : Value :=
  .obj [("id", .str "copy-b"), ("kind", .str "transform"), ("operation", .str "copy"),
    ("inputColumns", .arr [.str "b"]),
    ("outputColumns", .arr [.str "__asklake_quality_failure_1"]), ("onError", .str "warn")]

def nullRule (id column onError disposition : String) : Value :=
  .obj [("id", .str id), ("kind", .str "quality"), ("operation", .str "not_null"),
    ("inputColumns", .arr [.str column]), ("onError", .str onError),
    ("failureDisposition", .str disposition)]

/-- The first quality rule sets its input to `NULL`; that is the flag of the second one. -/
def flagRulesOfTwo : List Value :=
  [copyRule, nullRule "q0" "__asklake_quality_failure_1" "warn" "set_null",
    nullRule "q1" "a" "quarantine" "keep"]

/-- The sizes of a result: output, quarantine, and the two dropped counts. -/
def sizes (result : Except RuleFailure (SnapshotResult Nat)) : Option (Nat × Nat × Nat × Nat) :=
  match result with
  | .ok r => some (r.frame.count, (quarantinedNumbers r.quarantine).length,
      r.transform.droppedCount, r.quality.droppedCount)
  | .error _ => none

theorem sizes_flagRulesOfTwo :
    sizes (applySnapshotRules plainHost plainSpark twoRows flagRulesOfTwo (some 2)) =
      some (0, 1, 0, 0) := by
  decide +kernel

theorem noReservedColumn_twoRows : NoReservedColumn plainSpark twoRows.columns := by
  intro column hcolumn name hname
  rw [Bool.eq_false_iff]
  intro hsame
  have hhead : name.toList.head? = some '_' := by
    obtain ⟨rest, hrest⟩ := hname
    rw [← hrest]
    rfl
  have hunderscore := plainSpark.sameName_underscore hsame hhead
  rcases List.mem_cons.mp hcolumn with rfl | hcolumn
  · exact absurd hunderscore (by decide)
  · rw [List.mem_singleton.mp hcolumn] at hunderscore
    exact absurd hunderscore (by decide)

end

end AskLake.Rules

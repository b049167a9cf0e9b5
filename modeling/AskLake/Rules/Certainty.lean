/-
# `AskLake.Rules.Certainty` — what the conditions of the rules depend on

Two facts about every condition that a rule builds.  It is `NULL` on no row: where the input is
`NULL` it is missing, and the rest of the condition is absorbed; where the input is a value, so is
its text, and every test of a text has an answer.  And the condition of a quality rule looks at
one column of the row only.
-/
import AskLake.Lib.Outcome
import AskLake.Rules.Runtime

namespace AskLake.Rules

open AskLake.Lib AskLake.Python

variable {ν : Type} {host : Host} {spark : Spark ν} {row : Row ν}

namespace Column

@[simp] theorem truthOn_litBool (b : Bool) : (litBool b : Column ν).truthOn row = some b :=
  truthOn_ofTruth _ _

@[simp] theorem truthOn_isNull (c : Column ν) :
    c.isNull.truthOn row = some (c.value row).isNone :=
  truthOn_ofTruth _ _

@[simp] theorem truthOn_not (c : Column ν) : c.not.truthOn row = Kleene.not (c.truthOn row) :=
  truthOn_ofTruth _ _

@[simp] theorem truthOn_or (a b : Column ν) :
    (a.or b).truthOn row = Kleene.or (a.truthOn row) (b.truthOn row) :=
  truthOn_ofTruth _ _

@[simp] theorem truthOn_and (a b : Column ν) :
    (a.and b).truthOn row = Kleene.and (a.truthOn row) (b.truthOn row) :=
  truthOn_ofTruth _ _

theorem value_onText {f : String → Option (Cell ν)} {c : Column ν} {s : String}
    (h : c.value row = some (.text s)) : (c.onText f).value row = f s := by
  unfold onText
  dsimp only
  rw [h]

/-- A value has a text. -/
theorem value_string (spark : Spark ν) {c : Column ν} {cell : Cell ν} (h : c.value row = some cell) :
    ∃ s, (c.string spark).value row = some (.text s) := by
  unfold string
  dsimp only
  rw [h]
  cases cell with
  | bool b => exact ⟨_, rfl⟩
  | text s => exact ⟨_, rfl⟩
  | other v => exact ⟨_, rfl⟩

/-- The trimmed text of a value. -/
theorem value_trim_string (spark : Spark ν) {c : Column ν} {cell : Cell ν} (h : c.value row = some cell) :
    ∃ s, ((c.string spark).trim).value row = some (.text s) := by
  obtain ⟨s, hs⟩ := value_string spark h
  exact ⟨_, value_onText hs⟩

theorem certain_rlike {c : Column ν} {s : String} (pattern : String)
    (h : c.value row = some (.text s)) : Kleene.Certain ((c.rlike spark pattern).truthOn row) := by
  unfold truthOn rlike
  rw [value_onText h]
  exact ⟨_, rfl⟩

theorem certain_isin {c : Column ν} {s : String} (values : List String)
    (h : c.value row = some (.text s)) : Kleene.Certain ((c.isin values).truthOn row) := by
  unfold truthOn isin
  rw [value_onText h]
  exact ⟨_, rfl⟩

end Column

/-! ## Missing values -/

theorem isMissing_of_null {c : Column ν} (h : c.value row = none) :
    (isMissing spark c).truthOn row = some true := by
  unfold isMissing
  rw [Column.truthOn_or, Column.truthOn_isNull, h]
  rfl

theorem certain_isMissing (c : Column ν) : Kleene.Certain ((isMissing spark c).truthOn row) := by
  cases h : c.value row with
  | none => exact ⟨true, isMissing_of_null h⟩
  | some cell =>
      obtain ⟨s, hs⟩ := Column.value_trim_string spark h
      unfold isMissing
      rw [Column.truthOn_or, Column.truthOn_isNull]
      refine Kleene.Certain.or ⟨_, rfl⟩ ?_
      unfold Column.truthOn Column.lengthIs
      rw [Column.value_onText hs]
      exact ⟨_, rfl⟩

/-- `~missing & failed`: what a cast says of a missing value does not matter. -/
theorem certain_present_and {c failed : Column ν}
    (h : ∀ cell, c.value row = some cell → Kleene.Certain (failed.truthOn row)) :
    Kleene.Certain (((isMissing spark c).not.and failed).truthOn row) := by
  rw [Column.truthOn_and, Column.truthOn_not]
  cases hc : c.value row with
  | none =>
      rw [isMissing_of_null hc]
      exact Kleene.certain_and_of_false _ rfl
  | some cell => exact (certain_isMissing c).not.and (h cell hc)

/-- `value.isNull() | ~test` -/
theorem certain_null_or_not {c test : Column ν}
    (h : ∀ cell, c.value row = some cell → Kleene.Certain (test.truthOn row)) :
    Kleene.Certain ((c.isNull.or test.not).truthOn row) := by
  rw [Column.truthOn_or, Column.truthOn_isNull, Column.truthOn_not]
  cases hc : c.value row with
  | none => exact Kleene.certain_or_of_true _ rfl
  | some cell => exact Kleene.Certain.or ⟨_, rfl⟩ (h cell hc).not

/-! ## Transforms -/

theorem certain_castByPattern (source : Column ν) (pattern type : String) :
    Kleene.Certain ((castByPattern spark source pattern type).2.truthOn row) := by
  refine certain_present_and fun cell hcell => ?_
  obtain ⟨s, hs⟩ := Column.value_trim_string spark hcell
  rw [Column.truthOn_or, Column.truthOn_not, Column.truthOn_isNull]
  exact (Column.certain_rlike pattern hs).not.or ⟨_, rfl⟩

theorem certain_castColumn (source : Column ν) (targetType : Value) :
    Kleene.Certain ((castColumn host spark source targetType).2.truthOn row) := by
  unfold castColumn
  dsimp only
  split_ifs
  · exact ⟨_, Column.truthOn_litBool false⟩
  · exact certain_present_and fun _ _ => ⟨_, Column.truthOn_isNull _⟩
  · exact certain_castByPattern _ _ _
  · exact certain_castByPattern _ _ _
  · exact certain_present_and fun _ _ => ⟨_, Column.truthOn_isNull _⟩
  · exact certain_present_and fun _ _ => ⟨_, Column.truthOn_isNull _⟩
  · exact ⟨_, Column.truthOn_litBool false⟩

/-- No transform is unsure about a row. -/
theorem certain_transform (frame : Frame ν) (rule : Value) (row : Row ν) :
    Kleene.Certain ((transformExpression host spark frame rule).invalid.truthOn row) := by
  unfold transformExpression
  dsimp only
  split_ifs
  · rw [Column.truthOn_or]
    exact (certain_isMissing _).or (certain_castColumn _ _)
  · exact certain_castColumn _ _
  · exact ⟨_, Column.truthOn_litBool false⟩
  · exact ⟨_, Column.truthOn_isNull _⟩
  · exact ⟨_, Column.truthOn_litBool false⟩
  · exact ⟨_, Column.truthOn_litBool true⟩
  · exact certain_present_and fun _ _ => ⟨_, Column.truthOn_isNull _⟩
  · exact ⟨_, Column.truthOn_litBool true⟩
  · exact certain_castColumn _ _
  · exact ⟨_, Column.truthOn_litBool true⟩

/-! ## Quality rules -/

theorem certain_beyond {condition numeric : Column ν} (inclusive : Bool)
    (strict loose : Comparison) (x : Option Float)
    (hnull : numeric.value row = none → condition.truthOn row = some true)
    (hcondition : Kleene.Certain (condition.truthOn row))
    (hnumber : ∀ cell, numeric.value row = some cell → ∃ v, cell = .other v) :
    Kleene.Certain ((beyond spark condition numeric inclusive strict loose x).truthOn row) ∧
      (numeric.value row = none →
        (beyond spark condition numeric inclusive strict loose x).truthOn row = some true) := by
  cases x with
  | none => exact ⟨hcondition, hnull⟩
  | some x =>
      unfold beyond
      dsimp only
      rw [Column.truthOn_or]
      cases hn : numeric.value row with
      | none =>
          rw [hnull hn]
          exact ⟨⟨true, rfl⟩, fun _ => rfl⟩
      | some cell =>
          obtain ⟨v, rfl⟩ := hnumber cell hn
          refine ⟨hcondition.or ?_, fun h => nomatch h⟩
          unfold Column.truthOn Column.compare
          dsimp only
          rw [hn]
          exact ⟨_, rfl⟩

/-- The number that a range rule reads is a number or `NULL`. -/
theorem value_numeric {text valid : Column ν} {type : String} {cell : Cell ν}
    (h : (Column.when valid (text.cast spark type) .litNull).value row = some cell) :
    ∃ v, cell = .other v := by
  unfold Column.when at h
  dsimp only at h
  split at h
  · obtain ⟨v, -, rfl⟩ := Option.map_eq_some_iff.mp h
    exact ⟨v, rfl⟩
  · exact nomatch h

theorem certain_range {text valid : Column ν} {type : String} {inclusive : Bool}
    (low high : Option Float) :
    let numeric := Column.when valid (text.cast spark type) .litNull
    Kleene.Certain ((beyond spark (beyond spark numeric.isNull numeric inclusive .lt .le low) numeric
      inclusive .gt .ge high).truthOn row) := by
  intro numeric
  have hnumber : ∀ cell, numeric.value row = some cell → ∃ v, cell = .other v :=
    fun cell hcell => value_numeric hcell
  have hnull : numeric.value row = none → numeric.isNull.truthOn row = some true := by
    intro h
    rw [Column.truthOn_isNull, h]
    rfl
  obtain ⟨hlow, hlownull⟩ : Kleene.Certain
      ((beyond spark numeric.isNull numeric inclusive .lt .le low).truthOn row) ∧ _ :=
    certain_beyond inclusive .lt .le low hnull ⟨_, Column.truthOn_isNull _⟩ hnumber
  exact (certain_beyond inclusive .gt .ge high hlownull hlow hnumber).1

/-- No quality rule is unsure about a row. -/
theorem certain_quality {Error : Type} {frame : Frame ν} {rule : Value} {condition : Column ν}
    {reason : String} (row : Row ν)
    (h : (qualityFailureCondition host spark frame rule : Except (Failure Error) _) = .ok (condition, reason)) :
    Kleene.Certain (condition.truthOn row) := by
  unfold qualityFailureCondition at h
  dsimp only at h
  split_ifs at h
  · cases h
    exact certain_isMissing _
  · cases h
    exact ⟨_, Column.truthOn_litBool true⟩
  · split at h
    · exact nomatch h
    · cases h
      exact ⟨_, Column.truthOn_litBool true⟩
    · split at h
      · exact nomatch h
      · cases h
        exact ⟨_, Column.truthOn_litBool true⟩
      · cases h
        exact certain_range _ _
  · cases h
    exact ⟨_, Column.truthOn_litBool true⟩
  · split at h
    · exact nomatch h
    · cases h
      exact ⟨_, Column.truthOn_litBool true⟩
    · cases h
      refine certain_null_or_not fun cell hcell => ?_
      obtain ⟨s, hs⟩ := Column.value_string spark hcell
      exact Column.certain_rlike _ hs
  · cases h
    exact ⟨_, Column.truthOn_litBool true⟩
  · cases h
    refine certain_null_or_not fun cell hcell => ?_
    obtain ⟨s, hs⟩ := Column.value_string spark hcell
    exact Column.certain_isin _ hs
  · cases h
    exact ⟨_, Column.truthOn_litBool true⟩

/-! ## The column that a quality rule looks at -/

/-- The frame is only asked for the rule's column. -/
theorem qualityFailureCondition_congr {Error : Type} {frame frame' : Frame ν} {rule : Value}
    (h : sourceColumn frame (resolveColumnName host frame.columns (inputName rule)) =
      sourceColumn frame' (resolveColumnName host frame'.columns (inputName rule))) :
    (qualityFailureCondition host spark frame rule : Except (Failure Error) _) =
      qualityFailureCondition host spark frame' rule := by
  unfold qualityFailureCondition
  rw [h]

namespace Column

variable {r r' : Row ν} {a b c : Column ν}

/-- A column that does not tell two rows apart. -/
def Same (r r' : Row ν) (c : Column ν) : Prop := c.value r = c.value r'

theorem Same.truthOn (h : c.Same r r') : c.truthOn r = c.truthOn r' := congrArg truth h

theorem same_ofTruth {condition : Row ν → Option Bool} (h : condition r = condition r') :
    (ofTruth condition).Same r r' :=
  congrArg (Option.map Cell.bool) h

theorem Same.isNull (h : c.Same r r') : c.isNull.Same r r' :=
  same_ofTruth (congrArg (fun v => some v.isNone) h)

theorem Same.not (h : c.Same r r') : c.not.Same r r' :=
  same_ofTruth (congrArg Kleene.not h.truthOn)

theorem Same.or (ha : a.Same r r') (hb : b.Same r r') : (a.or b).Same r r' :=
  same_ofTruth (congrArg₂ Kleene.or ha.truthOn hb.truthOn)

theorem Same.onText (f : String → Option (Cell ν)) (h : c.Same r r') : (c.onText f).Same r r' := by
  unfold Same Column.onText
  dsimp only
  rw [h]

theorem Same.string (h : c.Same r r') : (c.string spark).Same r r' :=
  congrArg (Option.map _) h

theorem Same.cast (type : String) (h : c.Same r r') : (c.cast spark type).Same r r' :=
  congrArg (fun v : Option (Cell ν) => (v.bind (spark.cast type)).map Cell.other) h

theorem Same.when (hc : c.Same r r') (ha : a.Same r r') (hb : b.Same r r') :
    (Column.when c a b).Same r r' := by
  unfold Same Column.when
  dsimp only
  rw [hc.truthOn, ha, hb]

theorem Same.compare (op : Comparison) (x : Float) (h : c.Same r r') :
    (c.compare spark op x).Same r r' := by
  unfold Same Column.compare
  dsimp only
  rw [h]

end Column

theorem same_isMissing {r r' : Row ν} {c : Column ν} (h : c.Same r r') :
    (isMissing spark c).Same r r' :=
  h.isNull.or ((h.string.onText _).onText _)

theorem same_beyond {r r' : Row ν} {condition numeric : Column ν} (inclusive : Bool)
    (strict loose : Comparison) (x : Option Float) (hc : condition.Same r r')
    (hn : numeric.Same r r') :
    (beyond spark condition numeric inclusive strict loose x).Same r r' := by
  cases x with
  | none => exact hc
  | some x => exact hc.or (hn.compare _ _)

/-- Rows with the same value in the rule's column are judged alike. -/
theorem same_quality {Error : Type} {frame : Frame ν} {rule : Value} {condition : Column ν}
    {reason : String} {r r' : Row ν}
    (h : (qualityFailureCondition host spark frame rule : Except (Failure Error) _) =
      .ok (condition, reason))
    (hvalue : (sourceColumn frame
      (resolveColumnName host frame.columns (inputName rule))).Same r r') :
    condition.Same r r' := by
  unfold qualityFailureCondition at h
  dsimp only at h
  generalize sourceColumn frame (resolveColumnName host frame.columns (inputName rule)) = value
    at h hvalue
  have hnumeric : (Column.when (((value.string spark).trim).rlike spark numberPattern)
      (((value.string spark).trim).cast spark "double") .litNull).Same r r' :=
    ((hvalue.string.onText _).onText _).when ((hvalue.string.onText _).cast _) rfl
  split_ifs at h
  · cases h
    exact same_isMissing hvalue
  · cases h
    exact rfl
  · split at h
    · exact nomatch h
    · cases h
      exact rfl
    · split at h
      · exact nomatch h
      · cases h
        exact rfl
      · cases h
        exact same_beyond _ _ _ _ (same_beyond _ _ _ _ hnumeric.isNull hnumeric) hnumeric
  · cases h
    exact rfl
  · split at h
    · exact nomatch h
    · cases h
      exact rfl
    · cases h
      exact hvalue.isNull.or (hvalue.string.onText _).not
  · cases h
    exact rfl
  · cases h
    exact hvalue.isNull.or (hvalue.string.onText _).not
  · cases h
    exact rfl

end AskLake.Rules

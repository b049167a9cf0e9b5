/-
# `AskLake.Rules.Runtime` — `apply_snapshot_rules`

The rules of a job run in two stages over one frame:

    transforms    in their order, each on the columns that the ones before it left; a row on which
                  a rule is invalid is handled by the rule's action before its column is written
    quality       every rule is a flag column of the frame that the transforms left; the actions
                  follow, in the order of the rules, and read the flags

A rule is a dictionary.  `timings`, `passRate` and `summary`, which is a text about the other
counts, are left out.
-/
import AskLake.Rules.Frame
import Mathlib.Algebra.GroupWithZero.Nat

namespace AskLake.Rules

open AskLake.Lib AskLake.Python

variable {ν : Type} (host : Host) (spark : Spark ν)

def transformOperations : List String :=
  ["cast", "copy", "default_value", "json_extract", "lowercase_trim", "mask", "null_guard",
    "parse_timestamp", "rename"]

def qualityOperations : List String := ["accepted_values", "not_null", "range", "regex"]

/-- `ROW_ID` -/
def rowIdName : String := "__asklake_rule_row_id"

/-! ## Rules -/

/-- `rule.get("enabled") is not False` -/
def enabled (rule : Value) : Bool := !(rule.get "enabled").isFalse

def supportsSnapshotRules (rules : List Value) : Bool :=
  rules.all fun rule =>
    !rule.truthy || (rule.isDict &&
      (!enabled rule ||
        (host.textOf (rule.get "kind") == "transform" &&
          transformOperations.contains (host.textOf (rule.get "operation"))) ||
        (host.textOf (rule.get "kind") == "quality" &&
          qualityOperations.contains (host.textOf (rule.get "operation")))))

/-- The enabled rules of a kind. -/
def rulesOf (kind : String) (rules : List Value) : List Value :=
  (rules.filter Value.isDict).filter fun rule => (rule.get "kind").isText kind && enabled rule

inductive FailureAction
  | failBatch
  | quarantine
  | dropRow
  | setNull
  | keep
  deriving DecidableEq

def failureAction (rule : Value) : FailureAction :=
  if (rule.get "onError").isText "fail_batch" then .failBatch
  else if (rule.get "onError").isText "quarantine" then .quarantine
  else if (rule.get "failureDisposition").isText "drop_row" then .dropRow
  else if (rule.get "failureDisposition").isText "set_null" then .setNull
  else .keep

/-- `rule.get("parameters") if isinstance(rule.get("parameters"), dict) else {}` -/
def parametersOf (rule : Value) : Value := (rule.get "parameters").dictOr

/-! ## Names -/

/-- `[0-9A-Za-z_]` -/
def isNameChar (c : Char) : Bool :=
  ('0' ≤ c && c ≤ '9') || ('A' ≤ c && c ≤ 'Z') || ('a' ≤ c && c ≤ 'z') || c == '_'

def normalizeName (value : Value) : String :=
  slug isNameChar (host.lower (strip (host.textOf value)))

/-- `_resolve_column_name`; `""` is no column. -/
def resolveColumnName (columns : List String) (name : Value) : String :=
  if host.textOf name ∈ columns then host.textOf name
  else if normalizeName host (.str (host.textOf name)) ∈ columns then
    normalizeName host (.str (host.textOf name))
  else ""

/-- `_first(rule.get("inputColumns"))` -/
def inputName (rule : Value) : Value := (rule.get "inputColumns").first

/-- `_normalize_name(_first(rule.get("outputColumns")) or _first(rule.get("inputColumns")))` -/
def outputName (rule : Value) : String :=
  normalizeName host ((rule.get "outputColumns").first.orElse (inputName rule))

/-- The column that a rule reads: `NULL` where its input names none. -/
def sourceColumn (frame : Frame ν) (resolved : String) : Column ν :=
  if resolved = "" then .litNull else frame.col resolved

/-! ## Conditions of a rule -/

def isMissing (c : Column ν) : Column ν :=
  c.isNull.or (((c.string spark).trim).lengthIs 0)

/-- `str(target_type or "").strip().lower()` -/
def typeName (type : Value) : String := host.lower (strip (host.textOf type))

/-- A cast that is valid where the trimmed text matches `pattern` and parses. -/
def castByPattern (source : Column ν) (pattern type : String) : Column ν × Column ν :=
  let text := (source.string spark).trim
  let valid := text.rlike spark pattern
  let expression := Column.when valid (text.cast spark type) .litNull
  (expression, (isMissing spark source).not.and (valid.not.or expression.isNull))

def integerPattern : String := "^[+-]?\\d+$"

def numberPattern : String := "^[+-]?(?:\\d+(?:\\.\\d*)?|\\.\\d+)(?:[eE][+-]?\\d+)?$"

/-- The value of a cast, and where it is invalid. -/
def castColumn (source : Column ν) (targetType : Value) : Column ν × Column ν :=
  let normalized := typeName host targetType
  let missing := isMissing spark source
  let text := (source.string spark).trim
  if normalized = "" then (source, .litBool false)
  else if contains "bool" normalized then
    let lowered := text.lower spark
    let expression := Column.when (lowered.isin ["true", "1", "yes", "y"]) (.litBool true)
      (Column.when (lowered.isin ["false", "0", "no", "n"]) (.litBool false) .litNull)
    (expression, missing.not.and expression.isNull)
  else if ["integer", "int", "long", "bigint"].any (contains · normalized) then
    castByPattern spark source integerPattern "long"
  else if ["float", "double", "decimal", "number", "numeric", "real"].any (contains · normalized) then
    castByPattern spark source numberPattern "double"
  else if contains "timestamp" normalized || contains "datetime" normalized then
    let expression := text.toTimestamp spark
    (expression, missing.not.and expression.isNull)
  else if normalized = "date" then
    let expression := text.toDate spark
    (expression, missing.not.and expression.isNull)
  else (source.string spark, .litBool false)

/-- What a transform makes of its input, where it is invalid, and why. -/
structure Transformed (ν : Type) where
  expression : Column ν
  invalid : Column ν
  reason : String
  source : Column ν

/-- `_json_text` -/
def jsonText (source : Column ν) : Column ν :=
  if source.nested then source.toJson spark else source.string spark

def maskPattern : String := "(\\d\x7b3\x7d)-?\\d\x7b4\x7d-?(\\d\x7b4\x7d)"

/-- `_transform_expression` -/
def transformExpression (frame : Frame ν) (rule : Value) : Transformed ν :=
  let source := sourceColumn frame (resolveColumnName host frame.columns (inputName rule))
  let operation := host.textOf (rule.get "operation")
  let parameters := parametersOf rule
  let outputType := (rule.get "outputType").orElse (parameters.get "targetType")
  let missing := isMissing spark source
  if operation = "null_guard" then
    let (expression, invalid) := castColumn host spark source outputType
    ⟨expression, missing.or invalid, "missing_required_value", source⟩
  else if operation = "default_value" then
    let selected := Column.when missing (.lit spark (parameters.get "value")) source
    let (expression, invalid) := castColumn host spark selected outputType
    ⟨expression, invalid, "default_value_cast_failed", source⟩
  else if operation = "lowercase_trim" then
    ⟨((source.string spark).trim).lower spark, .litBool false, "", source⟩
  else if operation = "json_extract" then
    let path := host.text ((parameters.get "path").orElse (.str "$"))
    let expression := (jsonText spark source).getJsonObject spark path
    ⟨expression, expression.isNull, "json_path_not_found", source⟩
  else if operation = "mask" then
    if ["phone", "keep first 3 digits"].contains
        (host.lower (strip (host.textOf (parameters.get "policy")))) then
      ⟨(source.string spark).regexpReplace spark maskPattern "$1-****-$2", .litBool false, "", source⟩
    else ⟨source, .litBool true, "unsupported_mask_policy", source⟩
  else if operation = "parse_timestamp" then
    if ["ISO-8601", "UTC"].contains
        (host.upper (strip (host.textOf (parameters.get "format")))) then
      let expression := (source.string spark).toTimestamp spark
      ⟨expression, missing.not.and expression.isNull, "timestamp_cast_failed", source⟩
    else ⟨source, .litBool true, "unsupported_timestamp_format", source⟩
  else if operation = "cast" ∨ operation = "copy" ∨ operation = "rename" then
    let (expression, invalid) := castColumn host spark source outputType
    ⟨expression, invalid, "cast_failed", source⟩
  else ⟨source, .litBool true, "unsupported_transform_operation", source⟩

/-- What ends a batch: `SnapshotRuleExecutionError`, or an exception that nothing here catches. -/
inductive Failure (Error : Type)
  | rule (error : Error)
  | uncaught

/-- A bound of a range rule: `None` where there is none. -/
def bound (value : Value) : Attempt (Option Float) :=
  if value.absent then .done none
  else
    match host.float value with
    | .done x => .done (some x)
    | .refused => .refused
    | .raised => .raised

/-- `condition | (numeric < F.lit(bound))`, or `<=`, and the same for `max`. -/
def beyond (condition numeric : Column ν) (inclusive : Bool) (strict loose : Comparison) :
    Option Float → Column ν
  | none => condition
  | some x => condition.or (numeric.compare spark (if inclusive then strict else loose) x)

/-- `_quality_failure_condition`: the rows that fail, and why. -/
def qualityFailureCondition {Error : Type} (frame : Frame ν) (rule : Value) :
    Except (Failure Error) (Column ν × String) :=
  let value := sourceColumn frame (resolveColumnName host frame.columns (inputName rule))
  let operation := host.textOf (rule.get "operation")
  let parameters := parametersOf rule
  if operation = "not_null" then .ok (isMissing spark value, "missing_required_value")
  else if operation = "range" then
    let text := (value.string spark).trim
    let numeric := Column.when (text.rlike spark numberPattern) (text.cast spark "double") .litNull
    let minimum := parameters.get "min"
    let maximum := parameters.get "max"
    let inclusive := !(parameters.get "inclusive").isFalse
    if minimum.absent && maximum.absent then .ok (.litBool true, "range_bounds_missing")
    else
      match bound host minimum with
      | .raised => .error .uncaught
      | .refused => .ok (.litBool true, "numeric_range_check_failed")
      | .done low =>
          match bound host maximum with
          | .raised => .error .uncaught
          | .refused => .ok (.litBool true, "numeric_range_check_failed")
          | .done high =>
              let condition := beyond spark numeric.isNull numeric inclusive .lt .le low
              .ok (beyond spark condition numeric inclusive .gt .ge high,
                "numeric_range_check_failed")
  else if operation = "regex" then
    let pattern := host.textOf (parameters.get "pattern")
    if pattern = "" then .ok (.litBool true, "regex_pattern_missing")
    else
      match host.compilePattern pattern with
      | .raised => .error .uncaught
      | .refused => .ok (.litBool true, "invalid_regex_pattern")
      | .done _ =>
          .ok (value.isNull.or ((value.string spark).rlike spark pattern).not, "regex_match_failed")
  else if operation = "accepted_values" then
    let values := match parameters.get "values" with
      | .arr items => items.map host.text
      | _ => []
    if values = [] then .ok (.litBool true, "accepted_values_missing")
    else .ok (value.isNull.or ((value.string spark).isin values).not, "value_not_accepted")
  else .ok (.litBool true, "unsupported_quality_operation")

/-! ## Quarantine -/

def flagPrefix : String := "__asklake_quality_failure_"

/-- `f"__asklake_quality_failure_{index}"` -/
def flagName (index : Nat) : String := flagPrefix ++ index.repr

/-- `_optional_column` -/
def optionalColumn (frame : Frame ν) (candidates : List String) (type : String) : Column ν :=
  match candidates.find? fun name => resolveColumnName host frame.columns (.str name) ≠ "" with
  | some name =>
      let column := frame.col (resolveColumnName host frame.columns (.str name))
      if type = "string" then column.string spark else column.cast spark type
  | none => .litNull

/-- `_quarantine_rows` -/
def quarantineRows (frame : Frame ν) (stage : String) (rule : Value) (reason : String) : Frame ν :=
  let visible := frame.columns.filter fun column =>
    !flagPrefix.toList.isPrefixOf column.toList && column != rowIdName
  let eventId := resolveColumnName host frame.columns (.str "event_id")
  frame.select
    [(rowIdName, .named rowIdName),
      ("topic", optionalColumn host spark frame ["topic"] "string"),
      ("partition", optionalColumn host spark frame ["partition", "kafka_partition"] "int"),
      ("offset", optionalColumn host spark frame ["offset", "kafka_offset"] "long"),
      ("kafka_timestamp", optionalColumn host spark frame ["kafka_timestamp"] "timestamp"),
      ("raw_payload", optionalColumn host spark frame ["raw_payload"] "string"),
      ("event_id", if eventId = "" then .litText "" else (frame.col eventId).string spark),
      ("record", .record spark visible),
      ("reason", .litText reason),
      ("ruleId", .litText (host.textOf (rule.get "id"))),
      ("stage", .litText stage),
      ("targetColumn",
        .litText (host.textOf ((inputName rule).orElse (rule.get "outputColumns").first)))]

/-- `_append_quarantine` -/
def appendQuarantine (current : Option (Frame ν)) (next : Frame ν) : Frame ν :=
  match current with
  | none => next
  | some frame => frame.union next

/-! ## The transforms -/

structure TransformStats where
  appliedStepCount : Int := 0
  configuredStepCount : Nat
  droppedCount : Nat := 0
  errorCount : Nat := 0
  quarantinedCount : Nat := 0
  setNullCount : Nat := 0
  warnCount : Nat := 0
  deriving DecidableEq

inductive QualityStatus
  | pass
  | warn
  | fail
  deriving DecidableEq

structure QualityStats where
  blockingFailures : Nat := 0
  configuredRuleCount : Nat
  droppedCount : Nat := 0
  evaluatedRowCount : Option Int := none
  invalidRowCount : Nat := 0
  quarantinedCount : Nat := 0
  setNullCount : Nat := 0
  warnCount : Nat := 0
  status : QualityStatus := .pass
  deriving DecidableEq

structure SnapshotRuleExecutionError where
  message : String
  failedStage : String
  ruleId : String
  transform : TransformStats
  quality : QualityStats
  deriving DecidableEq

/-- `SnapshotRuleExecutionError(stage, rule, reason, transform=…, quality=…)` -/
def ruleError (stage : String) (rule : Value) (reason : String) (transform : TransformStats)
    (quality : QualityStats) : SnapshotRuleExecutionError :=
  { message := stage ++ " rule " ++ host.text ((rule.get "id").orElse (.str "unknown")) ++
      " failed: " ++ reason
    failedStage := stage
    ruleId := host.textOf (rule.get "id")
    transform, quality }

abbrev RuleFailure := Failure SnapshotRuleExecutionError

/-- The frame between two transforms. -/
structure Transforming (ν : Type) where
  current : Frame ν
  currentRowCount : Option Int
  quarantine : Option (Frame ν)
  stats : TransformStats

/-- One transform that has an output name. -/
def applyTransform (quality : QualityStats) (s : Transforming ν) (rule : Value) :
    Except RuleFailure (Transforming ν) :=
  let output := outputName host rule
  let rowCount := s.currentRowCount.getD s.current.count
  let t := transformExpression host spark s.current rule
  let invalidCount := (s.current.filter t.invalid).count
  let stats := { s.stats with
    appliedStepCount := s.stats.appliedStepCount + (rowCount - invalidCount)
    errorCount := s.stats.errorCount + invalidCount }
  let action := failureAction rule
  let left := some
    (if invalidCount ≠ 0 ∧ (action = .quarantine ∨ action = .dropRow) then rowCount - invalidCount
      else rowCount)
  let valid := (s.current.filter t.invalid.not).withColumn spark output t.expression
  if invalidCount = 0 then
    .ok { s with
      current := s.current.withColumn spark output t.expression
      currentRowCount := left
      stats }
  else
    match action with
    | .failBatch => .error (.rule (ruleError host "transform" rule t.reason stats quality))
    | .quarantine =>
        .ok
          { current := valid
            currentRowCount := left
            quarantine := some (appendQuarantine s.quarantine
              (quarantineRows host spark (s.current.filter t.invalid) "transform" rule t.reason))
            stats := { stats with quarantinedCount := stats.quarantinedCount + invalidCount } }
    | .dropRow =>
        .ok { s with
          current := valid
          currentRowCount := left
          stats := { stats with droppedCount := stats.droppedCount + invalidCount } }
    | .setNull =>
        .ok { s with
          current := s.current.withColumn spark output (.when t.invalid .litNull t.expression)
          currentRowCount := left
          stats := { stats with setNullCount := stats.setNullCount + invalidCount } }
    | .keep =>
        .ok { s with
          current := s.current.withColumn spark output (.when t.invalid t.source t.expression)
          currentRowCount := left
          stats := { stats with warnCount := stats.warnCount + invalidCount } }

/-- One pass of the loop over the transforms; a rule without an output name is passed over. -/
def transformStep (quality : QualityStats) (s : Transforming ν) (rule : Value) :
    Except RuleFailure (Transforming ν) :=
  if outputName host rule = "" then .ok s else applyTransform host spark quality s rule

/-! ## The quality rules -/

/-- A quality rule with its flag column. -/
structure Flagged where
  rule : Value
  flag : String
  reason : String

def Flagged.invalid (f : Flagged) : Column ν := .named f.flag

/-- The loop that adds the flag columns. -/
def flagRules (index : Nat) (flagged : Frame ν) :
    List Value → Except RuleFailure (Frame ν × List Flagged)
  | [] => .ok (flagged, [])
  | rule :: rules => do
      let (condition, reason) ← qualityFailureCondition host spark flagged rule
      let (flagged, flags) ← flagRules (index + 1)
        (flagged.withColumn spark (flagName index) condition) rules
      .ok (flagged, ⟨rule, flagName index, reason⟩ :: flags)

/-- `any_failure` -/
def anyFailure : List Flagged → Column ν
  | [] => .litBool false
  | f :: flags => flags.foldl (fun any g => any.or g.invalid) f.invalid

/-- `flagged.filter(any_failure).select(ROW_ID).distinct().count()` -/
def invalidRowCount [DecidableEq ν] (flagged : Frame ν) (flags : List Flagged) : Nat :=
  ((flagged.filter (anyFailure flags)).rows.map fun row => row.cell rowIdName).dedup.length

/-- The frame between two quality actions. -/
structure Judging (ν : Type) where
  current : Frame ν
  quarantine : Option (Frame ν)
  stats : QualityStats

/-- The action of one quality rule. -/
def qualityStep (s : Judging ν) (f : Flagged) : Judging ν :=
  let invalidCount := (s.current.filter f.invalid).count
  if invalidCount = 0 then s
  else
    match failureAction f.rule with
    | .quarantine =>
        { current := s.current.filter (.not f.invalid)
          quarantine := some (appendQuarantine s.quarantine
            (quarantineRows host spark (s.current.filter f.invalid) "quality" f.rule f.reason))
          stats := { s.stats with quarantinedCount := s.stats.quarantinedCount + invalidCount } }
    | .dropRow =>
        { s with
          current := s.current.filter (.not f.invalid)
          stats := { s.stats with droppedCount := s.stats.droppedCount + invalidCount } }
    | .setNull =>
        let target := resolveColumnName host s.current.columns (inputName f.rule)
        { s with
          current :=
            if target = "" then s.current
            else s.current.withColumn spark target (.when f.invalid .litNull (s.current.col target))
          stats := { s.stats with setNullCount := s.stats.setNullCount + invalidCount } }
    | _ => { s with stats := { s.stats with warnCount := s.stats.warnCount + invalidCount } }

/-- The rules that block, with the number of rows that each one blocks on. -/
def blockingCounts (flagged : Frame ν) (flags : List Flagged) : List (Flagged × Nat) :=
  (flags.filter fun f => failureAction f.rule = .failBatch).map fun f =>
    (f, (flagged.filter f.invalid).count)

structure SnapshotResult (ν : Type) where
  frame : Frame ν
  quarantine : Option (Frame ν)
  transform : TransformStats
  quality : QualityStats

/-- The quality stage: flags, blocking rules, actions. -/
def applyQuality [DecidableEq ν] (s : Transforming ν) (qualityRules : List Value) :
    Except RuleFailure (SnapshotResult ν) := do
  let qualityInputCount := s.currentRowCount.getD s.current.count
  let (flagged, flags) ← flagRules host spark 0 s.current qualityRules
  let blocking := blockingCounts flagged flags
  let stats : QualityStats :=
    { configuredRuleCount := qualityRules.length
      evaluatedRowCount := some qualityInputCount
      invalidRowCount := if flags = [] then 0 else invalidRowCount flagged flags
      blockingFailures := (blocking.map Prod.snd).sum }
  match blocking.find? fun b => b.2 ≠ 0 with
  | some (f, _) =>
      .error (.rule (ruleError host "quality" f.rule f.reason s.stats { stats with status := .fail }))
  | none =>
      let judged := flags.foldl (qualityStep host spark) ⟨flagged, s.quarantine, stats⟩
      .ok
        { frame := (judged.current.drop spark (flags.map Flagged.flag)).drop spark [rowIdName]
          quarantine := judged.quarantine.map fun rows => rows.drop spark [rowIdName]
          transform := s.stats
          quality := { judged.stats with
            status := if judged.stats.invalidRowCount = 0 then .pass else .warn } }

/-! ## A batch -/

/-- The frame that the rules start on. -/
def startTransforms (frame : Frame ν) (rules : List Value) (inputRowCount : Option Int) :
    Transforming ν :=
  { current := frame.withColumn spark rowIdName (.rowId spark)
    currentRowCount := inputRowCount
    quarantine := none
    stats := { configuredStepCount := (rulesOf "transform" rules).length } }

/-- The quality counts before any quality rule has run. -/
def startQuality (rules : List Value) : QualityStats :=
  { configuredRuleCount := (rulesOf "quality" rules).length }

/-- `apply_snapshot_rules(frame, rules, input_row_count)` -/
def applySnapshotRules [DecidableEq ν] (frame : Frame ν) (rules : List Value)
    (inputRowCount : Option Int) : Except RuleFailure (SnapshotResult ν) := do
  let s ← (rulesOf "transform" rules).foldlM (transformStep host spark (startQuality rules))
    (startTransforms spark frame rules inputRowCount)
  applyQuality host spark s (rulesOf "quality" rules)

end AskLake.Rules

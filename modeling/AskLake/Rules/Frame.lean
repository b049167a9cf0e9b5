/-
# `AskLake.Rules.Frame` — the data frames that the rules run on

A column is a function of the row, and its value may be `NULL`.  Conditions are columns of
booleans, under three-valued logic; a cast of text that is no such value gives `NULL`.

    frame.filter c            the rows on which `c` is true
    frame.withColumn name c   replaces the columns that have this name but for case, or appends one

A row keeps its number through every operation.  What Spark does with a single value (its string,
its parsing of numbers, timestamps and JSON, its regular expressions) is the session's; an
expression that Spark refuses to type or to evaluate is not modelled.
-/
import AskLake.Lib.Kleene
import AskLake.Python.Value

namespace AskLake.Rules

open AskLake.Lib AskLake.Python

/-- A value that is not `NULL`. -/
inductive Cell (ν : Type)
  | bool (b : Bool)
  | text (s : String)
  | other (v : ν)
  deriving DecidableEq

inductive Comparison
  | lt
  | le
  | gt
  | ge
  deriving DecidableEq

structure Spark (ν : Type) where
  /-- The case folding of `equalsIgnoreCase`, which compares the names of columns. -/
  fold : Char → Char
  fold_ascii : ∀ c, isAscii c = true → fold c = c.toLower
  fold_underscore : ∀ c, fold c = '_' → c = '_'
  /-- `cast("string")`; of no value it is `NULL`. -/
  string : ν → String
  /-- `cast` of a value to a type of numbers or times -/
  cast : String → Cell ν → Option ν
  lower : String → String
  toTimestamp : String → Option ν
  toDate : String → Option ν
  rlike : String → String → Bool
  /-- `regexp_replace(text, pattern, replacement)` -/
  regexpReplace : String → String → String → String
  /-- `get_json_object(text, path)` -/
  getJsonObject : String → String → Option String
  /-- `to_json` of an array, a map or a struct -/
  toJson : ν → String
  /-- `to_json(struct(…))` of a row's columns -/
  record : List (String × Option (Cell ν)) → String
  /-- A numeric value against a `float` -/
  compare : Comparison → ν → Float → Bool
  /-- `lit(value)` -/
  lit : Value → Option (Cell ν)
  /-- `monotonically_increasing_id()` on the row of this number -/
  rowId : Nat → ν

structure Row (ν : Type) where
  number : Nat
  cell : String → Option (Cell ν)

/-- A frame.  `nested` are the columns of an array, map or struct type. -/
structure Frame (ν : Type) where
  columns : List String
  nested : String → Bool
  rows : List (Row ν)

structure Column (ν : Type) where
  value : Row ν → Option (Cell ν)
  nested : Bool := false

variable {ν : Type}

/-- A value of a boolean column as a truth value. -/
def truth : Option (Cell ν) → Option Bool
  | some (.bool b) => some b
  | _ => none

namespace Column

/-- The truth value of a condition on a row. -/
def truthOn (c : Column ν) (row : Row ν) : Option Bool := truth (c.value row)

/-- A condition from its truth values. -/
def ofTruth (condition : Row ν → Option Bool) : Column ν :=
  { value := fun row => (condition row).map .bool }

@[simp] theorem truthOn_ofTruth (condition : Row ν → Option Bool) (row : Row ν) :
    (ofTruth condition).truthOn row = condition row := by
  unfold truthOn ofTruth
  dsimp only
  cases condition row with
  | none => rfl
  | some b => rfl

/-- `F.col(name)` of a column that is not nested -/
def named (name : String) : Column ν := { value := fun row => row.cell name }

/-- `F.lit(None)` -/
def litNull : Column ν := { value := fun _ => none }

/-- `F.lit(True)`, `F.lit(False)` -/
def litBool (b : Bool) : Column ν := ofTruth fun _ => some b

def litText (s : String) : Column ν := { value := fun _ => some (.text s) }

def isNull (c : Column ν) : Column ν := ofTruth fun row => some (c.value row).isNone

/-- `~a` -/
def not (a : Column ν) : Column ν := ofTruth fun row => Kleene.not (a.truthOn row)

/-- `a | b` -/
def or (a b : Column ν) : Column ν := ofTruth fun row => Kleene.or (a.truthOn row) (b.truthOn row)

/-- `a & b` -/
def and (a b : Column ν) : Column ν :=
  ofTruth fun row => Kleene.and (a.truthOn row) (b.truthOn row)

/-- `F.when(condition, a).otherwise(b)` -/
def when (condition a b : Column ν) : Column ν :=
  { value := fun row => if Kleene.holds (condition.truthOn row) then a.value row else b.value row
    nested := a.nested || b.nested }

/-- A column of texts, by what becomes of a text. -/
def onText (f : String → Option (Cell ν)) (c : Column ν) : Column ν :=
  { value := fun row =>
      match c.value row with
      | some (.text s) => f s
      | _ => none }

/-- `F.trim`, which drops the spaces at both ends -/
def trim (c : Column ν) : Column ν :=
  c.onText fun s => some (.text (String.ofList (stripOf (· == ' ') s.toList)))

/-- `F.length(c) == n` -/
def lengthIs (c : Column ν) (n : Nat) : Column ν := c.onText fun s => some (.bool (s.length == n))

/-- `c.isin(*values)` -/
def isin (c : Column ν) (values : List String) : Column ν :=
  c.onText fun s => some (.bool (values.contains s))

variable (spark : Spark ν)

/-- `c.cast("string")` -/
def string (c : Column ν) : Column ν :=
  { value := fun row =>
      (c.value row).map fun
        | .bool b => .text (if b then "true" else "false")
        | .text s => .text s
        | .other v => .text (spark.string v) }

def cast (type : String) (c : Column ν) : Column ν :=
  { value := fun row => ((c.value row).bind (spark.cast type)).map .other }

/-- `F.lit(value)` -/
def lit (value : Value) : Column ν :=
  { value := fun _ => spark.lit value
    nested := match value with | .arr _ => true | _ => false }

def lower (c : Column ν) : Column ν := c.onText fun s => some (.text (spark.lower s))

def toTimestamp (c : Column ν) : Column ν := c.onText fun s => (spark.toTimestamp s).map .other

def toDate (c : Column ν) : Column ν := c.onText fun s => (spark.toDate s).map .other

def rlike (c : Column ν) (pattern : String) : Column ν :=
  c.onText fun s => some (.bool (spark.rlike pattern s))

def regexpReplace (c : Column ν) (pattern replacement : String) : Column ν :=
  c.onText fun s => some (.text (spark.regexpReplace s pattern replacement))

def getJsonObject (c : Column ν) (path : String) : Column ν :=
  c.onText fun s => (spark.getJsonObject s path).map .text

/-- `F.to_json` of a nested column -/
def toJson (c : Column ν) : Column ν :=
  { value := fun row =>
      match c.value row with
      | some (.other v) => some (.text (spark.toJson v))
      | _ => none }

/-- `F.to_json(F.struct(*columns))` -/
def record (columns : List String) : Column ν :=
  { value := fun row => some (.text (spark.record (columns.map fun name => (name, row.cell name)))) }

/-- A numeric column against a number. -/
def compare (op : Comparison) (c : Column ν) (bound : Float) : Column ν :=
  { value := fun row =>
      match c.value row with
      | some (.other v) => some (.bool (spark.compare op v bound))
      | _ => none }

/-- `F.monotonically_increasing_id()` -/
def rowId : Column ν := { value := fun row => some (.other (spark.rowId row.number)) }

end Column

namespace Spark

variable (spark : Spark ν)

/-- The names of two columns, compared without case. -/
def sameName (a b : String) : Bool := a.toList.map spark.fold == b.toList.map spark.fold

/-- Case does not touch a first underscore. -/
theorem sameName_underscore {a b : String} (h : spark.sameName a b = true)
    (hb : b.toList.head? = some '_') : a.toList.head? = some '_' := by
  unfold sameName at h
  rw [beq_iff_eq] at h
  cases ha : a.toList with
  | nil =>
      rw [ha] at h
      have hnil : b.toList = [] := List.map_eq_nil_iff.mp h.symm
      rw [hnil] at hb
      exact nomatch hb
  | cons c cs =>
      cases hbs : b.toList with
      | nil => rw [hbs] at hb; exact nomatch hb
      | cons d ds =>
          rw [hbs] at hb
          have hd : d = '_' := Option.some.inj hb
          subst hd
          rw [ha, hbs] at h
          have hfold : spark.fold '_' = '_' := spark.fold_ascii '_' rfl
          have hc : spark.fold c = '_' := (List.cons_eq_cons.mp h).1.trans hfold
          rw [spark.fold_underscore c hc]
          rfl

end Spark

namespace Frame

variable (spark : Spark ν) (frame : Frame ν)

/-- `F.col(name)` on the frame -/
def col (name : String) : Column ν :=
  { value := fun row => row.cell name, nested := frame.nested name }

def count : Nat := frame.rows.length

def numbers : List Nat := frame.rows.map Row.number

def filter (condition : Column ν) : Frame ν :=
  { frame with rows := frame.rows.filter fun row => Kleene.holds (condition.truthOn row) }

/-- The columns after `withColumn(name, …)` -/
def columnsWith (name : String) : List String :=
  if frame.columns.any fun column => spark.sameName column name then
    frame.columns.map fun column => if spark.sameName column name then name else column
  else frame.columns ++ [name]

def withColumn (name : String) (c : Column ν) : Frame ν :=
  { columns := frame.columnsWith spark name
    nested := fun column => if column = name then c.nested else frame.nested column
    rows := frame.rows.map fun row =>
      { row with cell := fun column => if column = name then c.value row else row.cell column } }

def drop (names : List String) : Frame ν :=
  { frame with columns := frame.columns.filter fun column => !names.any (spark.sameName column) }

/-- `frame.select(c₁.alias(name₁), …)` -/
def select (fields : List (String × Column ν)) : Frame ν :=
  { columns := fields.map Prod.fst
    nested := fun column => ((fields.lookup column).map Column.nested).getD false
    rows := frame.rows.map fun row =>
      { row with cell := fun column => (fields.lookup column).bind fun c => c.value row } }

/-- `frame.unionByName(other)` of frames with the same columns -/
def union (other : Frame ν) : Frame ν := { frame with rows := frame.rows ++ other.rows }

/-! ## What the operations leave -/

@[simp] theorem numbers_withColumn (name : String) (c : Column ν) :
    (frame.withColumn spark name c).numbers = frame.numbers := by
  simp [numbers, withColumn]

@[simp] theorem numbers_select (fields : List (String × Column ν)) :
    (frame.select fields).numbers = frame.numbers := by
  simp [numbers, select]

@[simp] theorem numbers_union (other : Frame ν) :
    (frame.union other).numbers = frame.numbers ++ other.numbers := by
  simp [numbers, union]

@[simp] theorem length_numbers : frame.numbers.length = frame.count := by
  simp [numbers, count]

/-- The rows with a condition that is certain on them and the rows without it are all rows. -/
theorem numbers_filter_perm {condition : Column ν}
    (h : ∀ row ∈ frame.rows, Kleene.Certain (condition.truthOn row)) :
    ((frame.filter condition).numbers ++ (frame.filter condition.not).numbers).Perm frame.numbers := by
  have hsplit := split_perm_iff.mpr h
  have hmap := hsplit.map Row.number
  rw [List.map_append] at hmap
  simpa [numbers, filter, Column.not] using hmap

end Frame

end AskLake.Rules

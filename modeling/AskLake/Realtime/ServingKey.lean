/-
# `AskLake.Realtime.ServingKey` — the key of a serving row

The compiler writes an SQL expression for the key, and ClickHouse computes it for each row:

    SHA256(concat('scope|dataset|pipeline|', part₁, '|', part₂, …))

    part  =  '-1:'            for NULL
             '<length>:text'  else

The separator may be in a text, but the length says where the text ends.  `SqlText` are the
expressions, as far as the key needs them; a value of a row is what `toString` renders.
-/
import AskLake.Python.Json

namespace AskLake.Realtime

open AskLake.Lib AskLake.Python

/-! ## The expression -/

inductive SqlText
  | literal (text : String)
  /-- `toString(q.name)` -/
  | column (name : String)
  /-- `toString(lengthUTF8(text))` -/
  | lengthUTF8 (text : SqlText)
  /-- `if(isNull(q.name), whenNull, otherwise)` -/
  | ifNull (name : String) (whenNull otherwise : SqlText)
  /-- `concat(first, second)`; of more arguments, one after the other -/
  | concat (first second : SqlText)

/-- The values of a row by their columns, `none` for NULL. -/
abbrev SqlRow := String → Option String

/-- A NULL argument makes a call NULL. -/
def SqlText.eval (row : SqlRow) : SqlText → Option String
  | literal text => some text
  | column name => row name
  | lengthUTF8 text => (text.eval row).map fun value => toString value.length
  | ifNull name whenNull otherwise =>
      if (row name).isNone then whenNull.eval row else otherwise.eval row
  | concat first second => do
      let value ← first.eval row
      let value' ← second.eval row
      pure (value ++ value')

/-- The part of `RealtimeSqlPlan` and of the arguments that the key is made of -/
structure ServingPlan where
  scopeId : String
  servingDatasetId : String
  pipelineVersionId : String
  businessKeyColumns : List String

/-- `list(plan.business_key_columns) or ["event_key"]` -/
def ServingPlan.keyNames (plan : ServingPlan) : List String :=
  if plan.businessKeyColumns = [] then ["event_key"] else plan.businessKeyColumns

/-- An item of `key_parts` -/
def keyPart (name : String) : SqlText :=
  .ifNull name (.literal "-1:")
    (.concat (.lengthUTF8 (.column name)) (.concat (.literal ":") (.column name)))

/-- `", '|', ".join(key_parts)`, as arguments of `concat` -/
def keyMaterial : List String → SqlText
  | [] => .literal ""
  | [name] => keyPart name
  | name :: names => .concat (keyPart name) (.concat (.literal "|") (keyMaterial names))

/-- `serving_prefix` -/
def ServingPlan.servingPrefix (plan : ServingPlan) : String :=
  plan.scopeId ++ "|" ++ plan.servingDatasetId ++ "|" ++ plan.pipelineVersionId ++ "|"

/-- What `_serving_select` hashes into `serving_key`. -/
def ServingPlan.servingKeyText (plan : ServingPlan) : SqlText :=
  .concat (.literal plan.servingPrefix) (keyMaterial plan.keyNames)

/-! ## The text of one column -/

/-- The text of a part. -/
def partText : Option String → String
  | none => "-1:"
  | some value => toString value.length ++ (":" ++ value)

theorem eval_keyPart (row : SqlRow) (name : String) :
    (keyPart name).eval row = some (partText (row name)) := by
  rw [keyPart, SqlText.eval]
  cases h : row name with
  | none => rfl
  | some value => simp [SqlText.eval, h, partText]

/-- The number before the colon. -/
def lengthOf : Option String → Int
  | none => -1
  | some value => value.length

theorem letters_partText (value : Option String) :
    (partText value).toList =
      (Int.repr (lengthOf value)).toList ++ ':' :: (value.getD "").toList := by
  cases value with
  | none => rfl
  | some value => simp [partText, lengthOf, String.toList_append, Int.repr]

/-- A length that has been read says how much follows. -/
theorem reads_partText : Reads anything fun value => (partText value).toList := by
  intro a b r s _ _ h
  dsimp only at h
  rw [letters_partText, letters_partText, List.append_assoc, List.append_assoc] at h
  obtain ⟨hlength, hrest⟩ := Json.reads_int (show stopsAt Json.isIntChar (':' :: _) from rfl)
    (show stopsAt Json.isIntChar (':' :: _) from rfl) h
  have hvalue := (List.cons_eq_cons.mp hrest).2
  cases a with
  | none =>
      cases b with
      | none => exact ⟨rfl, by simpa using hvalue⟩
      | some value => exact absurd hlength (by simp only [lengthOf]; omega)
  | some value =>
      cases b with
      | none => exact absurd hlength (by simp only [lengthOf]; omega)
      | some value' =>
          have hsame : value.toList.length = value'.toList.length := by
            rw [String.length_toList, String.length_toList]
            exact Int.ofNat_inj.mp hlength
          obtain ⟨hletters, hrs⟩ := List.append_inj hvalue hsame
          exact ⟨congrArg some (String.toList_inj.mp hletters), hrs⟩

/-! ## The text of all columns -/

/-- The text of the parts. -/
def materialText (row : SqlRow) : List String → String
  | [] => ""
  | [name] => partText (row name)
  | name :: names => partText (row name) ++ ("|" ++ materialText row names)

theorem eval_keyMaterial (row : SqlRow) (names : List String) :
    (keyMaterial names).eval row = some (materialText row names) := by
  induction names with
  | nil => rfl
  | cons name names ih =>
      cases names with
      | nil => exact eval_keyPart row name
      | cons next names =>
          rw [keyMaterial, SqlText.eval, eval_keyPart, SqlText.eval, ih]
          · rfl
          · exact List.cons_ne_nil _ _

/-- Column after column is read off. -/
theorem materialText_injective {row row' : SqlRow} {names : List String}
    (h : materialText row names = materialText row' names) : names.map row = names.map row' := by
  induction names with
  | nil => rfl
  | cons name names ih =>
      cases names with
      | nil =>
          have hpart := Reads.injective reads_partText trivial (congrArg String.toList h)
          exact congrArg (fun value => [value]) hpart
      | cons next names =>
          have hletters := congrArg String.toList h
          simp only [materialText, String.toList_append] at hletters
          obtain ⟨hpart, hrest⟩ := reads_partText trivial trivial hletters
          have htail := List.append_cancel_left hrest
          rw [List.map_cons, hpart, ih (String.toList_inj.mp htail)]
          rfl

theorem materialText_congr {row row' : SqlRow} {names : List String}
    (h : names.map row = names.map row') : materialText row names = materialText row' names := by
  induction names with
  | nil => rfl
  | cons name names ih =>
      obtain ⟨hname, hrest⟩ := List.cons_eq_cons.mp h
      cases names with
      | nil => rw [materialText, materialText, hname]
      | cons next names =>
          show partText (row name) ++ ("|" ++ materialText row (next :: names)) =
            partText (row' name) ++ ("|" ++ materialText row' (next :: names))
          rw [hname, ih hrest]

/-- Every row has a key text, and two rows of one plan have the same one exactly if they agree on
the key columns, NULLs included. -/
theorem serving_key_injective (plan : ServingPlan) (row row' : SqlRow) :
    (plan.servingKeyText.eval row).isSome = true ∧
      (plan.servingKeyText.eval row = plan.servingKeyText.eval row' ↔
        plan.keyNames.map row = plan.keyNames.map row') := by
  have heval : ∀ row : SqlRow, plan.servingKeyText.eval row =
      some (plan.servingPrefix ++ materialText row plan.keyNames) := by
    intro row
    rw [ServingPlan.servingKeyText, SqlText.eval, SqlText.eval, eval_keyMaterial]
    rfl
  refine ⟨by rw [heval]; rfl, fun h => ?_, fun h => ?_⟩
  · rw [heval, heval] at h
    exact materialText_injective ((String.append_right_inj _).mp (Option.some.inj h))
  · rw [heval, heval, materialText_congr h]

/-- A separator in a value is not taken for the one between the parts. -/
example : (ServingPlan.mk "deployment" "d" "v" ["a", "b"]).servingKeyText.eval
    (fun name => if name = "a" then some "x|2:y" else none) =
      some "deployment|d|v|5:x|2:y|-1:" := by decide

end AskLake.Realtime

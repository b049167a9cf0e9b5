/-
# `AskLake.Python.Value` — the values of a rule, and the text operations on names

A `Value` is what `json.loads` and a `dict[str, Any]` hold, floats among them.

    names:   text.strip().lower()          then
             re.sub(r"[^…]+", "_", text)   then
             text.strip("_")

`str(value)` of what is no string and the two case mappings outside ASCII are the interpreter's
(`Host`); on ASCII text the mappings are those of the letters.
-/
import Mathlib.Data.List.Infix
import AskLake.Python.Url

namespace AskLake.Python

inductive Value
  | null
  | bool (b : Bool)
  | int (n : Int)
  | float (x : Float)
  | str (s : String)
  | arr (items : List Value)
  | obj (fields : List (String × Value))

namespace Value

/-- `bool(value)` -/
def truthy : Value → Bool
  | null => false
  | bool b => b
  | int n => n != 0
  | float x => x != 0
  | str s => s != ""
  | arr items => !items.isEmpty
  | obj fields => !fields.isEmpty

/-- `value.get(name)` -/
def get (value : Value) (name : String) : Value :=
  match value with
  | obj fields => (fields.lookup name).getD null
  | _ => null

/-- `value is False` -/
def isFalse : Value → Bool
  | bool b => !b
  | _ => false

/-- `value == text` -/
def isText (value : Value) (text : String) : Bool :=
  match value with
  | str s => s == text
  | _ => false

def isDict : Value → Bool
  | obj _ => true
  | _ => false

/-- `values[0] if isinstance(values, list) and values else ""` -/
def first : Value → Value
  | arr (v :: _) => v
  | _ => str ""

/-- `a or b` -/
def orElse (a b : Value) : Value :=
  if a.truthy then a else b

/-- `value in (None, "")` -/
def absent : Value → Bool
  | null => true
  | str s => s == ""
  | _ => false

/-- `value if isinstance(value, dict) else {}` -/
def dictOr : Value → Value
  | obj fields => obj fields
  | _ => obj []

end Value

/-! ## Text -/

def isAscii (c : Char) : Bool := c.toNat < 128

def asciiLower (s : String) : String := String.ofList (s.toList.map Char.toLower)

def asciiUpper (s : String) : String := String.ofList (s.toList.map Char.toUpper)

/-- What an interpreter for ASCII text alone has to show. -/
theorem asciiLower_agrees (s : String) (_ : s.toList.all isAscii = true) :
    asciiLower s = asciiLower s := rfl

theorem asciiUpper_agrees (s : String) (_ : s.toList.all isAscii = true) :
    asciiUpper s = asciiUpper s := rfl

/-- A call that may raise: what the caller of it catches, or something else. -/
inductive Attempt (α : Type)
  | done (a : α)
  | refused
  | raised

structure Host where
  /-- `str(value)` of a value that is no string -/
  str : Value → String
  /-- `float(value)`; `TypeError` and `ValueError` are caught, `OverflowError` is not. -/
  float : Value → Attempt Float
  /-- `re.compile(pattern)`; `re.error` is caught. -/
  compilePattern : String → Attempt Unit
  /-- `str.lower` -/
  lower : String → String
  /-- `str.upper` -/
  upper : String → String
  lower_ascii : ∀ s, s.toList.all isAscii = true → lower s = asciiLower s
  upper_ascii : ∀ s, s.toList.all isAscii = true → upper s = asciiUpper s

/-- `str(value)` -/
def Host.text (host : Host) : Value → String
  | .str s => s
  | value => host.str value

/-- `str(value or "")` -/
def Host.textOf (host : Host) (value : Value) : String :=
  host.text (value.orElse (.str ""))

@[simp] theorem Host.text_str (host : Host) (s : String) : host.text (.str s) = s := rfl

@[simp] theorem Host.textOf_str (host : Host) (s : String) : host.textOf (.str s) = s := by
  unfold Host.textOf Value.orElse
  split
  · rfl
  · rename_i h
    have hs : s = "" := by simpa [Value.truthy] using h
    rw [hs]
    rfl

/-- `part in text` -/
def contains (part text : String) : Bool :=
  decide (part.toList <:+: text.toList)

/-- `re.sub(r"[^…]+", "_", text)`, where `word` are the characters in the brackets; `inRun` says
that the character before is no such one. -/
def underscored (word : Char → Bool) (inRun : Bool) : Chars → Chars
  | [] => []
  | c :: cs =>
      if word c then c :: underscored word false cs
      else if inRun then underscored word true cs
      else '_' :: underscored word true cs

def isUnderscore (c : Char) : Bool := c == '_'

/-- `re.sub(r"[^…]+", "_", text).strip("_")` -/
def slug (word : Char → Bool) (text : String) : String :=
  String.ofList (stripOf isUnderscore (underscored word false text.toList))

/-- Stripped text does not start with what was stripped. -/
theorem stripOf_head {drop : Char → Bool} {cs : Chars} {c : Char}
    (h : (stripOf drop cs).head? = some c) : drop c = false := by
  have hpre : stripOf drop cs <+: cs.dropWhile drop := List.rdropWhile_prefix _ _
  cases hs : stripOf drop cs with
  | nil => rw [hs] at h; exact nomatch h
  | cons d rest =>
      rw [hs] at h hpre
      have hd : d = c := Option.some.inj h
      subst hd
      obtain ⟨tail, htail⟩ := hpre
      have hhead := List.head?_dropWhile_not drop cs
      rw [← htail] at hhead
      simpa using hhead

theorem slug_head {word : Char → Bool} {text : String} {c : Char}
    (h : (slug word text).toList.head? = some c) : c ≠ '_' := by
  unfold slug at h
  rw [String.toList_ofList] at h
  have := stripOf_head h
  intro hc
  rw [hc] at this
  exact nomatch this

end AskLake.Python

/-
# `AskLake.Python.Basic` — strings, exceptions, and what the runtime supplies

`str.strip()` with no argument drops the characters for which `str.isspace()`
holds from both ends; the identity checks of the source are `not value.strip()`,
here `blank`.

Three functions stay parameters: the digest, and the two Unicode case mappings.
Nothing is assumed of them here; a result that needs a digest without
collisions says on which texts.
-/
import Mathlib.Data.List.DropRight
import Mathlib.Data.List.Pairwise
import Mathlib.Data.Set.Function

namespace AskLake.Python

/-- What a transaction raises. -/
inductive Error
  | value (message : String)
  | runtime (message : String)
  | integrity (constraint : String)
  deriving DecidableEq, Repr

structure Runtime where
  /-- `hashlib.sha256(text.encode("utf-8")).hexdigest()` -/
  sha256 : String → String
  /-- `str.lower` -/
  lower : String → String
  /-- `str.casefold` -/
  casefold : String → String

/-- A property of the characters of a text, checked one by one. -/
theorem forall_of_all {cs : List Char} {p : Char → Prop} [DecidablePred p]
    (h : cs.all (fun c => decide (p c)) = true) : ∀ c ∈ cs, p c :=
  fun c hc => of_decide_eq_true (List.all_eq_true.mp h c hc)

/-- No two of these texts share a digest. -/
def Runtime.CollisionFree (rt : Runtime) (texts : Set String) : Prop :=
  Set.InjOn rt.sha256 texts

theorem collisionFree_of_pairwise {rt : Runtime} {texts : List String}
    (h : texts.Pairwise fun a b => rt.sha256 a = rt.sha256 b → a = b) :
    rt.CollisionFree { text | text ∈ texts } := by
  have : Std.Symm fun a b => rt.sha256 a = rt.sha256 b → a = b :=
    ⟨fun _ _ himp heq => (himp heq.symm).symm⟩
  intro a ha b hb
  exact h.forall_of_forall (fun _ _ _ => rfl) ha hb

/-- Digests are written in hexadecimal. -/
def Runtime.HexDigests (rt : Runtime) : Prop :=
  ∀ text, ∀ c ∈ (rt.sha256 text).toList, c ∈ "0123456789abcdef".toList

/-- A `dict[str, str]`, by its items in the order of their keys: two of them are
equal when the dictionaries are. -/
structure StrDict where
  entries : List (String × String)
  sorted : entries.Pairwise fun a b => a.1 < b.1
  deriving DecidableEq

def StrDict.empty : StrDict := ⟨[], .nil⟩

/-! ## Stripping -/

/-- `str.isspace`: the ASCII separators, and the Unicode space characters. -/
def isSpace (c : Char) : Bool :=
  let n := c.toNat
  (9 ≤ n && n ≤ 13) || (28 ≤ n && n ≤ 32) || n == 0x85 || n == 0xa0 || n == 0x1680 ||
    (0x2000 ≤ n && n ≤ 0x200a) || n == 0x2028 || n == 0x2029 || n == 0x202f || n == 0x205f ||
    n == 0x3000

def stripChars (cs : List Char) : List Char :=
  (cs.dropWhile isSpace).rdropWhile isSpace

def strip (s : String) : String :=
  String.ofList (stripChars s.toList)

/-- `not s.strip()` -/
def blank (s : String) : Bool :=
  strip s == ""

/-- What is left after the right end is stripped starts as it started. -/
theorem dropWhile_rdropWhile {cs : List Char} (h : cs.dropWhile isSpace = cs) :
    (cs.rdropWhile isSpace).dropWhile isSpace = cs.rdropWhile isSpace := by
  have hpre : cs.rdropWhile isSpace <+: cs := List.rdropWhile_prefix isSpace cs
  match hc : cs.rdropWhile isSpace, hpre with
  | [], _ => rfl
  | c :: rest, hpre =>
      obtain ⟨tail, ht⟩ := hpre
      have hhead : isSpace c = false := by
        by_contra hsp
        have hsp' : isSpace c = true := by simpa using hsp
        rw [← ht, List.cons_append, List.dropWhile_cons_of_pos hsp'] at h
        have hlen := congrArg List.length h
        have hle := ((rest ++ tail).dropWhile_suffix isSpace).length_le
        simp only [List.length_cons] at hlen
        omega
      rw [List.dropWhile_cons_of_neg (by simp [hhead])]

theorem stripChars_stripChars (cs : List Char) : stripChars (stripChars cs) = stripChars cs := by
  have hdrop : (cs.dropWhile isSpace).dropWhile isSpace = cs.dropWhile isSpace :=
    List.dropWhile_idempotent _ _
  unfold stripChars
  rw [dropWhile_rdropWhile hdrop, List.rdropWhile_idempotent]

theorem strip_strip (s : String) : strip (strip s) = strip s := by
  unfold strip
  rw [String.toList_ofList, stripChars_stripChars]

theorem strip_eq_self {s : String} (h : ∀ c ∈ s.toList, isSpace c = false) : strip s = s := by
  have hdrop : s.toList.dropWhile isSpace = s.toList := by
    rw [List.dropWhile_eq_self_iff]
    intro hlen
    simp [h _ (List.getElem_mem hlen)]
  have hrdrop : s.toList.rdropWhile isSpace = s.toList := by
    rw [List.rdropWhile_eq_self_iff]
    intro hne
    simp [h _ (List.getLast_mem hne)]
  rw [strip, stripChars, hdrop, hrdrop, String.ofList_toList]

/-- Text with no space at its ends stays as it is. -/
theorem strip_eq_self_of_ends {s : String} {c : Char} {cs : List Char} (hs : s.toList = c :: cs)
    (hc : isSpace c = false) (hlast : ∀ h, isSpace (s.toList.getLast h) = false) :
    strip s = s := by
  have hdrop : s.toList.dropWhile isSpace = s.toList := by
    rw [hs, List.dropWhile_cons_of_neg (by simp [hc])]
  have hrdrop : s.toList.rdropWhile isSpace = s.toList := by
    rw [List.rdropWhile_eq_self_iff]
    intro hne
    simp [hlast hne]
  rw [strip, stripChars, hdrop, hrdrop, String.ofList_toList]

/-- Text that says something, without space at its ends. -/
structure Text where
  text : String
  stripped : strip text = text
  nonempty : text ≠ ""
  deriving DecidableEq

/-- `str(value or "").strip() or None`; `none` is a falsy value. -/
def optionalString (value : Option String) : Option Text :=
  value.bind fun s => if h : strip s ≠ "" then some ⟨strip s, strip_strip s, h⟩ else none

@[simp] theorem optionalString_text (text : Text) : optionalString (some text.text) = some text := by
  obtain ⟨s, hstripped, hnonempty⟩ := text
  have hne : strip s ≠ "" := by
    rw [hstripped]
    exact hnonempty
  simp [optionalString, hstripped, hnonempty]

/-- Text that starts with no space keeps its first character. -/
theorem strip_head {s : String} {c : Char} {cs : List Char} (hs : s.toList = c :: cs)
    (hc : isSpace c = false) : (strip s).toList.head? = some c := by
  have hpre : (c :: cs).rdropWhile isSpace <+: c :: cs := List.rdropWhile_prefix isSpace _
  have hne : (c :: cs).rdropWhile isSpace ≠ [] := by
    rw [ne_eq, List.rdropWhile_eq_nil_iff]
    intro hall
    simp [hall c List.mem_cons_self] at hc
  rw [strip, String.toList_ofList, stripChars, hs, List.dropWhile_cons_of_neg (by simp [hc])]
  obtain ⟨tail, htail⟩ := hpre
  rw [← List.head?_append_of_ne_nil _ hne, htail]
  rfl

/-- Text with something in it is not stripped to nothing. -/
theorem strip_ne_empty {s : String} {c : Char} (hmem : c ∈ s.toList) (hc : isSpace c = false) :
    strip s ≠ "" := by
  intro hempty
  have hnil : (s.toList.dropWhile isSpace).rdropWhile isSpace = [] := by
    rw [← stripChars, ← String.toList_ofList (l := stripChars s.toList)]
    exact congrArg String.toList hempty
  have hall := List.rdropWhile_eq_nil_iff.mp hnil
  have hdrop : s.toList.dropWhile isSpace = [] := by
    cases hcons : s.toList.dropWhile isSpace with
    | nil => rfl
    | cons first rest =>
        have hfirst := List.head?_dropWhile_not isSpace s.toList
        rw [hcons] at hfirst hall
        simp [hall first List.mem_cons_self] at hfirst
  have hspace := List.dropWhile_eq_nil_iff.mp hdrop c hmem
  exact nomatch hc.symm.trans hspace

example : strip " events.orders\n" = "events.orders" := by decide

end AskLake.Python

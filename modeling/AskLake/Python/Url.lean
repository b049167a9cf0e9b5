/-
# `AskLake.Python.Url` — `str.split`, `str.replace` and `urlparse`

Text is read here as its list of characters.

    segments "a//b/" = ["a", "b"]

`urlparse` is the standard library's: a scheme is letters, digits and `+-.` before the first
colon, the host ends at the first of `/?#`, and query and fragment are no part of the path.
A host with one bracket only is refused.
-/
import AskLake.Python.Basic

namespace AskLake.Python

/-- The characters of a `str`. -/
abbrev Chars := List Char

/-- `text.replace(old, new, 1)` -/
def replaceFirst (old new : Chars) : Chars → Chars
  | [] => if old = [] then new else []
  | c :: cs =>
      if old.isPrefixOf (c :: cs) then new ++ (c :: cs).drop old.length
      else c :: replaceFirst old new cs

/-- `text.strip(chars)` -/
def stripOf (drop : Char → Bool) (cs : Chars) : Chars :=
  (cs.dropWhile drop).rdropWhile drop

/-- `[item for item in text.split("/") if item]` -/
def segments (cs : Chars) : List Chars :=
  (cs.splitOn '/').filter (· ≠ [])

/-- `"/".join(items)` -/
def joinSlash (items : List Chars) : Chars :=
  ['/'].intercalate items

/-! ## Segments -/

/-- A slash parts the segments. -/
theorem segments_append (cs rest : Chars) :
    segments (cs ++ '/' :: rest) = segments cs ++ segments rest := by
  unfold segments
  rw [List.splitOn_append_cons_self, List.filter_append]

/-- A joined path is read as the items it is made of. -/
theorem segments_joinSlash {items : List Chars} (hitems : ∀ item ∈ items, '/' ∉ item ∧ item ≠ [])
    (hne : items ≠ []) : segments (joinSlash items) = items := by
  unfold segments joinSlash
  rw [List.splitOn_intercalate '/' (fun item hitem => (hitems item hitem).1) hne,
    List.filter_eq_self]
  intro item hitem
  simpa using (hitems item hitem).2

theorem free_of_mem_splitOn {cs item : Chars} (h : item ∈ cs.splitOn '/') : '/' ∉ item := by
  induction cs generalizing item with
  | nil =>
      have hnil : item = [] := by simpa [List.splitOn] using h
      simp [hnil]
  | cons c cs ih =>
      rw [List.splitOn, List.splitOnP_cons_eq_if_modifyHead] at h
      split at h
      · rcases List.mem_cons.mp h with hnil | hrest
        · simp [hnil]
        · exact ih hrest
      · rename_i hc
        cases hsplit : cs.splitOnP (· == '/') with
        | nil => exact absurd hsplit (List.splitOnP_ne_nil _ _)
        | cons first others =>
            rw [hsplit, List.modifyHead_cons] at h
            rcases List.mem_cons.mp h with hfirst | hother
            · have hfree : '/' ∉ first := ih (by rw [List.splitOn, hsplit]; exact List.mem_cons_self)
              rw [hfirst, List.mem_cons, not_or]
              exact ⟨fun heq => hc (by simp [← heq]), hfree⟩
            · exact ih (by rw [List.splitOn, hsplit]; exact List.mem_cons_of_mem _ hother)

/-- A segment is not empty and holds no slash. -/
theorem mem_segments {cs item : Chars} (h : item ∈ segments cs) : '/' ∉ item ∧ item ≠ [] := by
  obtain ⟨hmem, hne⟩ := List.mem_filter.mp h
  exact ⟨free_of_mem_splitOn hmem, by simpa using hne⟩

/-! ## `urlparse` -/

/-- What the source reads of a parsed URL. -/
structure Url where
  scheme : Chars
  netloc : Chars
  path : Chars
  deriving DecidableEq

def isSchemeChar (c : Char) : Bool :=
  c.isAlphanum || c = '+' || c = '-' || c = '.'

/-- The scheme, in lower case, and what follows its colon. -/
def splitScheme (url : Chars) : Chars × Chars :=
  let head := url.takeWhile (· ≠ ':')
  match url with
  | first :: _ =>
      if head.length < url.length ∧ first.isAlpha ∧ head.all isSchemeChar then
        (head.map Char.toLower, url.drop (head.length + 1))
      else ([], url)
  | [] => ([], [])

def endsHost (c : Char) : Bool := c = '/' || c = '?' || c = '#'

/-- `urlparse(text)`, or none where it raises `ValueError` -/
def urlparse (text : Chars) : Option Url :=
  let cleaned := (text.dropWhile (·.toNat ≤ 32)).filter fun c => c ≠ '\t' && c ≠ '\r' && c ≠ '\n'
  let (scheme, rest) := splitScheme cleaned
  let (netloc, rest) :=
    if ['/', '/'].isPrefixOf rest then (rest.drop 2).span (!endsHost ·) else ([], rest)
  if netloc.contains '[' ≠ netloc.contains ']' then none
  else
    let path := (rest.takeWhile (· ≠ '#')).takeWhile (· ≠ '?')
    some { scheme := scheme, netloc := netloc, path := path }

example : urlparse "S3://lake/gold//sales/?v=1#top".toList =
    some ⟨"s3".toList, "lake".toList, "/gold//sales/".toList⟩ := by decide +kernel

end AskLake.Python

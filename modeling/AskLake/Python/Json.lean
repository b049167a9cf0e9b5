/-
# `AskLake.Python.Json` — `json.dumps` in its compact form

The documents the program stores and fingerprints, and the text `json.dumps`
gives them with `separators=(",", ":")`:

    dumps ensureAscii j            the fields in the order of the document
    dumpsSorted ensureAscii j      `sort_keys=True`

No document here holds a float.  `dumps_injective` is what a fingerprint rests
on: two documents with one text are one document.
-/
import Mathlib.Data.List.Sort
import Std.Data.String.ToInt
import AskLake.Lib.Code

namespace AskLake.Python

open AskLake.Lib

inductive Json
  | null
  | bool (b : Bool)
  | int (n : Int)
  | str (s : String)
  | arr (items : List Json)
  | obj (fields : List (String × Json))

namespace Json

/-! ## String literals -/

/-- `'\\u{0:04x}'.format(n)` -/
def hex4 (n : Nat) : List Char :=
  ['\\', 'u', (n / 4096 % 16).digitChar, (n / 256 % 16).digitChar, (n / 16 % 16).digitChar,
    (n % 16).digitChar]

/-- One character of a string literal.  Beyond the basic plane the escape is a
surrogate pair. -/
def escapeChar (ensureAscii : Bool) (c : Char) : List Char :=
  if c = '"' then ['\\', '"']
  else if c = '\\' then ['\\', '\\']
  else if c = '\n' then ['\\', 'n']
  else if c = '\r' then ['\\', 'r']
  else if c = '\t' then ['\\', 't']
  else if c = '\x08' then ['\\', 'b']
  else if c = '\x0c' then ['\\', 'f']
  else if c.toNat < 32 ∨ (ensureAscii ∧ 127 ≤ c.toNat) then
    if c.toNat < 0x10000 then hex4 c.toNat
    else hex4 (0xd800 + (c.toNat - 0x10000) / 0x400) ++
      hex4 (0xdc00 + (c.toNat - 0x10000) % 0x400)
  else [c]

def quote (ensureAscii : Bool) (s : String) : List Char :=
  '"' :: (s.toList.flatMap (escapeChar ensureAscii) ++ ['"'])

/-! ## Documents -/

mutual
def render (ensureAscii : Bool) : Json → List Char
  | null => ['n', 'u', 'l', 'l']
  | bool true => ['t', 'r', 'u', 'e']
  | bool false => ['f', 'a', 'l', 's', 'e']
  | int n => (Int.repr n).toList
  | str s => quote ensureAscii s
  | arr [] => ['[', ']']
  | arr (j :: js) => '[' :: (render ensureAscii j ++ renderItems ensureAscii js)
  | obj [] => ['{', '}']
  | obj ((k, j) :: fs) =>
      '{' :: (quote ensureAscii k ++ ':' :: (render ensureAscii j ++ renderFields ensureAscii fs))

/-- The items after the first one. -/
def renderItems (ensureAscii : Bool) : List Json → List Char
  | [] => [']']
  | j :: js => ',' :: (render ensureAscii j ++ renderItems ensureAscii js)

/-- The fields after the first one. -/
def renderFields (ensureAscii : Bool) : List (String × Json) → List Char
  | [] => ['}']
  | (k, j) :: fs =>
      ',' :: (quote ensureAscii k ++ ':' :: (render ensureAscii j ++ renderFields ensureAscii fs))
end

/-- `json.dumps(j, ensure_ascii=…, separators=(",", ":"))` -/
def dumps (ensureAscii : Bool) (j : Json) : String :=
  String.ofList (render ensureAscii j)

mutual
/-- Every object with its fields in the order of their keys. -/
def sortKeys : Json → Json
  | null => null
  | bool b => bool b
  | int n => int n
  | str s => str s
  | arr items => arr (sortItems items)
  | obj fields => obj ((sortFields fields).insertionSort fun f g => f.1 ≤ g.1)

def sortItems : List Json → List Json
  | [] => []
  | j :: js => sortKeys j :: sortItems js

def sortFields : List (String × Json) → List (String × Json)
  | [] => []
  | (k, j) :: fs => (k, sortKeys j) :: sortFields fs
end

/-- `json.dumps(j, ensure_ascii=…, sort_keys=True, separators=(",", ":"))` -/
def dumpsSorted (ensureAscii : Bool) (j : Json) : String :=
  dumps ensureAscii (sortKeys j)

/-! ## Reading a literal back -/

def hexValue (c : Char) : Nat :=
  if c.isDigit then c.toNat - 48 else c.toNat - 87

def hex4Value (a b c d : Char) : Nat :=
  hexValue a * 4096 + hexValue b * 256 + hexValue c * 16 + hexValue d

/-- The character an escaped text starts with. -/
def readChar : List Char → Option (Char × List Char)
  | '\\' :: '"' :: r => some ('"', r)
  | '\\' :: '\\' :: r => some ('\\', r)
  | '\\' :: 'n' :: r => some ('\n', r)
  | '\\' :: 'r' :: r => some ('\r', r)
  | '\\' :: 't' :: r => some ('\t', r)
  | '\\' :: 'b' :: r => some ('\x08', r)
  | '\\' :: 'f' :: r => some ('\x0c', r)
  | '\\' :: 'u' :: a :: b :: c :: d :: r =>
      let high := hex4Value a b c d
      if 0xd800 ≤ high ∧ high < 0xdc00 then
        match r with
        | _ :: _ :: a :: b :: c :: d :: r =>
            some (Char.ofNat (0x10000 + (high - 0xd800) * 0x400 + (hex4Value a b c d - 0xdc00)), r)
        | _ => none
      else some (Char.ofNat high, r)
  | c :: r => some (c, r)
  | [] => none

theorem hexValue_digitChar : ∀ d, d < 16 → hexValue d.digitChar = d := by decide

theorem hex4Value_hex4 {n : Nat} (h : n < 0x10000) :
    hex4Value (n / 4096 % 16).digitChar (n / 256 % 16).digitChar (n / 16 % 16).digitChar
      (n % 16).digitChar = n := by
  unfold hex4Value
  rw [hexValue_digitChar _ (by omega), hexValue_digitChar _ (by omega),
    hexValue_digitChar _ (by omega), hexValue_digitChar _ (by omega)]
  omega

/-- A character of the basic plane is no surrogate. -/
theorem toNat_not_surrogate (c : Char) : c.toNat < 0xd800 ∨ 0xdfff < c.toNat ∧ c.toNat < 0x110000 := by
  rcases c.valid with h | h
  · exact Or.inl h
  · exact Or.inr h

theorem readChar_hex4 {n : Nat} (h : n < 0x10000) (hs : n < 0xd800 ∨ 0xdfff < n) (r : List Char) :
    readChar (hex4 n ++ r) = some (Char.ofNat n, r) := by
  simp only [hex4, List.cons_append, List.nil_append, readChar, hex4Value_hex4 h]
  rw [if_neg (by omega)]

theorem readChar_pair {n : Nat} (h : 0x10000 ≤ n) (h' : n < 0x110000) (r : List Char) :
    readChar (hex4 (0xd800 + (n - 0x10000) / 0x400) ++ hex4 (0xdc00 + (n - 0x10000) % 0x400) ++ r) =
      some (Char.ofNat n, r) := by
  have hn : 0x10000 + (0xd800 + (n - 0x10000) / 0x400 - 0xd800) * 0x400 +
      (0xdc00 + (n - 0x10000) % 0x400 - 0xdc00) = n := by omega
  simp only [hex4, List.cons_append, List.nil_append, readChar]
  rw [hex4Value_hex4 (by omega), hex4Value_hex4 (by omega), if_pos (by omega), hn]

theorem readChar_self {c : Char} (h : c ≠ '\\') (r : List Char) :
    readChar (c :: r) = some (c, r) := by
  unfold readChar
  split <;> simp_all

theorem readChar_escapeChar (ensureAscii : Bool) (c : Char) (r : List Char) :
    readChar (escapeChar ensureAscii c ++ r) = some (c, r) := by
  unfold escapeChar
  split_ifs with h₁ h₂ h₃ h₄ h₅ h₆ h₇ h₈ h₉
  · subst h₁; rfl
  · subst h₂; rfl
  · subst h₃; rfl
  · subst h₄; rfl
  · subst h₅; rfl
  · subst h₆; rfl
  · subst h₇; rfl
  · rw [readChar_hex4 h₉ (by have := toNat_not_surrogate c; omega), Char.ofNat_toNat]
  · rw [readChar_pair (by omega) (by have := toNat_not_surrogate c; omega), Char.ofNat_toNat]
  · exact readChar_self h₂ r

theorem reads_escapeChar (ensureAscii : Bool) : Reads anything (escapeChar ensureAscii) := by
  intro c d r s _ _ he
  have h := congrArg readChar he
  rw [readChar_escapeChar, readChar_escapeChar] at h
  simpa using h

theorem escapeChar_head (ensureAscii : Bool) (c : Char) :
    ∃ d w, escapeChar ensureAscii c = d :: w ∧ d ≠ '"' := by
  unfold escapeChar
  split_ifs with h₁ h₂ h₃ h₄ h₅ h₆ h₇ h₈ h₉
  all_goals first
    | exact ⟨'\\', _, rfl, by decide⟩
    | exact ⟨c, _, rfl, h₁⟩

theorem reads_quote (ensureAscii : Bool) : Reads anything (quote ensureAscii) := by
  intro a b r s _ _ he
  simp only [quote, List.cons_append, List.append_assoc, List.nil_append, List.cons.injEq,
    true_and] at he
  obtain ⟨hab, hrs⟩ := reads_list (reads_escapeChar ensureAscii) (escapeChar_head ensureAscii) he
  exact ⟨String.toList_inj.mp hab, hrs⟩

/-! ## Reading a document back -/

/-- The letters an integer is written with. -/
def isIntChar (c : Char) : Bool :=
  c == '-' || c.isDigit

theorem isIntChar_of_mem (n : Int) : ∀ c ∈ (Int.repr n).toList, isIntChar c = true := by
  intro c hc
  rw [Int.repr_eq_if] at hc
  split at hc
  · rw [Nat.toList_repr] at hc
    simp [isIntChar, Nat.isDigit_of_mem_toDigits (by decide) (by decide) hc]
  · rw [String.toList_append, List.mem_append] at hc
    rcases hc with hc | hc
    · have hc' : c = '-' := by simpa using hc
      subst hc'; rfl
    · rw [Nat.toList_repr] at hc
      simp [isIntChar, Nat.isDigit_of_mem_toDigits (by decide) (by decide) hc]

theorem repr_ne_nil (n : Int) : (Int.repr n).toList ≠ [] := by
  rw [Int.repr_eq_if]
  split
  · rw [Nat.toList_repr]; exact Nat.toDigits_ne_nil
  · simp

theorem reads_int : Reads (stopsAt isIntChar) fun n : Int => (Int.repr n).toList := by
  refine reads_span ?_ fun a b h => Int.repr_inj.mp (String.toList_inj.mp h)
  exact isIntChar_of_mem

/-- The constructor of a document, as its first character shows it. -/
def tag : Json → Char
  | null => 'n'
  | bool true => 't'
  | bool false => 'f'
  | int _ => '0'
  | str _ => '"'
  | arr _ => '['
  | obj _ => '{'

def tagOfChar (c : Char) : Char :=
  if isIntChar c then '0' else c

theorem render_head (e : Bool) (j : Json) : ∃ c w, render e j = c :: w ∧ tagOfChar c = tag j := by
  match j with
  | null => exact ⟨_, _, rfl, rfl⟩
  | bool true => exact ⟨_, _, rfl, rfl⟩
  | bool false => exact ⟨_, _, rfl, rfl⟩
  | str s => exact ⟨_, _, rfl, rfl⟩
  | arr [] => exact ⟨_, _, rfl, rfl⟩
  | arr (_ :: _) => exact ⟨_, _, rfl, rfl⟩
  | obj [] => exact ⟨_, _, rfl, rfl⟩
  | obj ((_, _) :: _) => exact ⟨_, _, rfl, rfl⟩
  | int n =>
      match h : (Int.repr n).toList with
      | [] => exact absurd h (repr_ne_nil n)
      | c :: w =>
          have hc : isIntChar c = true := isIntChar_of_mem n c (by rw [h]; exact List.mem_cons_self)
          exact ⟨c, w, h, by simp [tagOfChar, hc, tag]⟩

theorem tag_ne_close (j : Json) : tag j ≠ ']' ∧ tag j ≠ '}' := by
  unfold tag
  split <;> decide

/-- No document starts with the bracket that closes an empty one. -/
theorem render_ne_close (e : Bool) {j : Json} {c : Char} {r s : List Char}
    (hc : c = ']' ∨ c = '}') : render e j ++ r ≠ c :: s := by
  obtain ⟨d, w, hd, ht⟩ := render_head e j
  intro h
  rw [hd, List.cons_append] at h
  have hdc : d = c := (List.cons_eq_cons.mp h).1
  subst hdc
  rcases hc with rfl | rfl
  · exact (tag_ne_close j).1 ht.symm
  · exact (tag_ne_close j).2 ht.symm

theorem tag_eq_of_render {e : Bool} {a b : Json} {r s : List Char}
    (h : render e a ++ r = render e b ++ s) : tag a = tag b := by
  obtain ⟨c, w, hc, hta⟩ := render_head e a
  obtain ⟨d, v, hd, htb⟩ := render_head e b
  rw [hc, hd] at h
  have hcd : c = d := (List.cons_eq_cons.mp h).1
  rw [← hta, ← htb, hcd]

theorem stops_items (e : Bool) (js : List Json) (r : List Char) :
    stopsAt isIntChar (renderItems e js ++ r) := by
  cases js <;> rfl

theorem stops_fields (e : Bool) (fs : List (String × Json)) (r : List Char) :
    stopsAt isIntChar (renderFields e fs ++ r) := by
  cases fs <;> rfl

mutual
theorem reads_render (e : Bool) : ∀ (a b : Json) {r s : List Char}, stopsAt isIntChar r →
    stopsAt isIntChar s → render e a ++ r = render e b ++ s → a = b ∧ r = s
  | int m, b, r, s, hr, hs, h => by
      match b, tag_eq_of_render h with
      | int n, _ =>
          obtain ⟨rfl, hrs⟩ := reads_int hr hs h
          exact ⟨rfl, hrs⟩
  | null, b, r, s, _, _, h => by
      match b, tag_eq_of_render h with
      | null, _ => exact ⟨rfl, List.append_cancel_left h⟩
  | bool true, b, r, s, _, _, h => by
      match b, tag_eq_of_render h with
      | bool true, _ => exact ⟨rfl, List.append_cancel_left h⟩
  | bool false, b, r, s, _, _, h => by
      match b, tag_eq_of_render h with
      | bool false, _ => exact ⟨rfl, List.append_cancel_left h⟩
  | str x, b, r, s, _, _, h => by
      match b, tag_eq_of_render h with
      | str y, _ =>
          obtain ⟨rfl, hrs⟩ := reads_quote e trivial trivial h
          exact ⟨rfl, hrs⟩
  | arr [], b, r, s, _, _, h => by
      match b, tag_eq_of_render h with
      | arr [], _ => exact ⟨rfl, List.append_cancel_left h⟩
      | arr (j :: js), _ =>
          simp only [render, List.cons_append, List.nil_append, List.append_assoc,
            List.cons.injEq, true_and] at h
          exact absurd h.symm (render_ne_close e (Or.inl rfl))
  | arr (i :: is), b, r, s, _, _, h => by
      match b, tag_eq_of_render h with
      | arr [], _ =>
          simp only [render, List.cons_append, List.nil_append, List.append_assoc,
            List.cons.injEq, true_and] at h
          exact absurd h (render_ne_close e (Or.inl rfl))
      | arr (j :: js), _ =>
          simp only [render, List.cons_append, List.append_assoc, List.cons.injEq,
            true_and] at h
          obtain ⟨rfl, hrest⟩ := reads_render e i j (stops_items e is r) (stops_items e js s) h
          obtain ⟨rfl, hrs⟩ := reads_renderItems e is js hrest
          exact ⟨rfl, hrs⟩
  | obj [], b, r, s, _, _, h => by
      match b, tag_eq_of_render h with
      | obj [], _ => exact ⟨rfl, List.append_cancel_left h⟩
      | obj ((k, j) :: fs), _ =>
          simp [render, quote] at h
  | obj ((k, i) :: fs), b, r, s, _, _, h => by
      match b, tag_eq_of_render h with
      | obj [], _ => simp [render, quote] at h
      | obj ((l, j) :: gs), _ =>
          simp only [render, List.cons_append, List.append_assoc, List.cons.injEq,
            true_and] at h
          obtain ⟨rfl, hvalue⟩ := reads_quote e trivial trivial h
          have hvalue' := (List.cons_eq_cons.mp hvalue).2
          obtain ⟨rfl, hrest⟩ :=
            reads_render e i j (stops_fields e fs r) (stops_fields e gs s) hvalue'
          obtain ⟨rfl, hrs⟩ := reads_renderFields e fs gs hrest
          exact ⟨rfl, hrs⟩

theorem reads_renderItems (e : Bool) : ∀ (is js : List Json) {r s : List Char},
    renderItems e is ++ r = renderItems e js ++ s → is = js ∧ r = s
  | [], [], r, s, h => by simpa [renderItems] using h
  | [], _ :: _, r, s, h => by simp [renderItems] at h
  | _ :: _, [], r, s, h => by simp [renderItems] at h
  | i :: is, j :: js, r, s, h => by
      simp only [renderItems, List.cons_append, List.append_assoc, List.cons.injEq,
        true_and] at h
      obtain ⟨rfl, hrest⟩ := reads_render e i j (stops_items e is r) (stops_items e js s) h
      obtain ⟨rfl, hrs⟩ := reads_renderItems e is js hrest
      exact ⟨rfl, hrs⟩

theorem reads_renderFields (e : Bool) : ∀ (fs gs : List (String × Json)) {r s : List Char},
    renderFields e fs ++ r = renderFields e gs ++ s → fs = gs ∧ r = s
  | [], [], r, s, h => by simpa [renderFields] using h
  | [], (_, _) :: _, r, s, h => by simp [renderFields] at h
  | (_, _) :: _, [], r, s, h => by simp [renderFields] at h
  | (k, i) :: fs, (l, j) :: gs, r, s, h => by
      simp only [renderFields, List.cons_append, List.append_assoc, List.cons.injEq,
        true_and] at h
      obtain ⟨rfl, hvalue⟩ := reads_quote e trivial trivial h
      have hvalue' := (List.cons_eq_cons.mp hvalue).2
      obtain ⟨rfl, hrest⟩ :=
        reads_render e i j (stops_fields e fs r) (stops_fields e gs s) hvalue'
      obtain ⟨rfl, hrs⟩ := reads_renderFields e fs gs hrest
      exact ⟨rfl, hrs⟩
end

theorem dumps_injective (e : Bool) : Function.Injective (dumps e) := by
  intro a b h
  have htext : render e a = render e b := String.ofList_injective h
  exact (reads_render e a b (r := []) (s := []) trivial trivial (by rw [htext])).1

end Json

end AskLake.Python

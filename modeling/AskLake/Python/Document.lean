/-
# `AskLake.Python.Document` — `json.dumps(value, sort_keys=True)` of a `Value`

    canonicalText floatText v     ensure_ascii=True, sort_keys=True, separators=(",", ":")

    Reordered v w                 w is v with the fields of objects in another order
    SameDocument v w              v and w are one document, whatever the order of keys

The text does not see the order of keys (`Reordered.canonicalText`), floats included.  Without
floats it sees everything else (`sameDocument_of_text`).
-/
import Mathlib.Data.String.Basic
import AskLake.Python.Json
import AskLake.Python.Value

namespace AskLake.Python

open Json (quote)

/-! ## Lists in the order of their keys -/

section
variable {α β : Type*}

def byKey (f g : String × α) : Prop := f.1 ≤ g.1

instance : DecidableRel (byKey (α := α)) := fun f g => inferInstanceAs (Decidable (f.1 ≤ g.1))

instance : IsTrans (String × α) byKey := ⟨fun _ _ _ h h' => @le_trans String _ _ _ _ h h'⟩

instance : Std.Total (byKey (α := α)) := ⟨fun f g => @le_total String _ f.1 g.1⟩

/-- Fields with different keys have one order. -/
theorem sorted_eq_of_perm {fields fields' : List (String × α)} (h : fields.Perm fields')
    (hnodup : (fields.map Prod.fst).Nodup) :
    fields.insertionSort byKey = fields'.insertionSort byKey := by
  have hperm : (fields.insertionSort byKey).Perm (fields'.insertionSort byKey) :=
    ((List.perm_insertionSort byKey fields).trans h).trans
      (List.perm_insertionSort byKey fields').symm
  refine hperm.eq_of_pairwise ?_ (List.pairwise_insertionSort byKey fields)
    (List.pairwise_insertionSort byKey fields')
  intro f g hf hg hle hge
  have hmem : f ∈ fields := (List.perm_insertionSort byKey fields).mem_iff.mp hf
  have hmem' : g ∈ fields := h.mem_iff.mpr ((List.perm_insertionSort byKey fields').mem_iff.mp hg)
  exact List.inj_on_of_nodup_map hnodup hmem hmem' (@le_antisymm String _ _ _ hle hge)

/-- Sorting by key does not look at the values. -/
theorem map_sorted (f : α → β) (fields : List (String × α)) :
    (fields.insertionSort byKey).map (fun field => (field.1, f field.2)) =
      (fields.map fun field => (field.1, f field.2)).insertionSort byKey :=
  List.map_insertionSort byKey byKey _ fields fun _ _ _ _ => Iff.rfl

end

namespace Value

/-! ## The text -/

def moreItems : List Chars → Chars
  | [] => [']']
  | text :: texts => ',' :: (text ++ moreItems texts)

def listText : List Chars → Chars
  | [] => ['[', ']']
  | text :: texts => '[' :: (text ++ moreItems texts)

def moreFields : List (String × Chars) → Chars
  | [] => ['}']
  | (name, text) :: fields => ',' :: (quote true name ++ ':' :: (text ++ moreFields fields))

def dictText : List (String × Chars) → Chars
  | [] => ['{', '}']
  | (name, text) :: fields => '{' :: (quote true name ++ ':' :: (text ++ moreFields fields))

mutual

/-- `json.dumps(v, ensure_ascii=True, sort_keys=True, separators=(",", ":"))`; `floatText` is
`float.__repr__`. -/
def canonicalText (floatText : Float → String) : Value → Chars
  | null => ['n', 'u', 'l', 'l']
  | bool true => ['t', 'r', 'u', 'e']
  | bool false => ['f', 'a', 'l', 's', 'e']
  | int n => (Int.repr n).toList
  | float x => (floatText x).toList
  | str s => quote true s
  | arr items => listText (itemTexts floatText items)
  | obj fields => dictText ((fieldTexts floatText fields).insertionSort byKey)

def itemTexts (floatText : Float → String) : List Value → List Chars
  | [] => []
  | v :: vs => canonicalText floatText v :: itemTexts floatText vs

def fieldTexts (floatText : Float → String) : List (String × Value) → List (String × Chars)
  | [] => []
  | (name, v) :: fields => (name, canonicalText floatText v) :: fieldTexts floatText fields

end

section
variable {floatText : Float → String}

theorem itemTexts_eq (items : List Value) :
    itemTexts floatText items = items.map (canonicalText floatText) := by
  induction items with
  | nil => rfl
  | cons v vs ih => rw [itemTexts, ih, List.map_cons]

theorem fieldTexts_eq (fields : List (String × Value)) :
    fieldTexts floatText fields =
      fields.map fun field => (field.1, canonicalText floatText field.2) := by
  induction fields with
  | nil => rfl
  | cons field fields ih => rw [fieldTexts, ih, List.map_cons]

theorem canonicalText_arr (items : List Value) :
    canonicalText floatText (arr items) = listText (items.map (canonicalText floatText)) := by
  rw [canonicalText, itemTexts_eq]

theorem canonicalText_obj (fields : List (String × Value)) :
    canonicalText floatText (obj fields) = dictText ((fields.map fun field =>
      (field.1, canonicalText floatText field.2)).insertionSort byKey) := by
  rw [canonicalText, fieldTexts_eq]

end

/-! ## The order of keys -/

/-- The keys of some objects of the value stand in another order. -/
inductive Reordered : Value → Value → Prop
  | refl (v : Value) : Reordered v v
  | trans {u v w : Value} : Reordered u v → Reordered v w → Reordered u w
  | item {v w : Value} (before after : List Value) :
      Reordered v w → Reordered (arr (before ++ v :: after)) (arr (before ++ w :: after))
  | field {v w : Value} (name : String) (before after : List (String × Value)) :
      Reordered v w →
        Reordered (obj (before ++ (name, v) :: after)) (obj (before ++ (name, w) :: after))
  | keys {fields fields' : List (String × Value)} :
      fields.Perm fields' → (fields.map Prod.fst).Nodup → Reordered (obj fields) (obj fields')

theorem Reordered.canonicalText {floatText : Float → String} {v w : Value} (h : Reordered v w) :
    v.canonicalText floatText = w.canonicalText floatText := by
  induction h with
  | refl => rfl
  | trans _ _ ih ih' => exact ih.trans ih'
  | item before after _ ih =>
      rw [canonicalText_arr, canonicalText_arr, List.map_append, List.map_append, List.map_cons,
        List.map_cons, ih]
  | field name before after _ ih =>
      rw [canonicalText_obj, canonicalText_obj, List.map_append, List.map_append, List.map_cons,
        List.map_cons, ih]
  | keys hperm hnodup =>
      rw [canonicalText_obj, canonicalText_obj]
      refine congrArg dictText (sorted_eq_of_perm (hperm.map _) ?_)
      rwa [List.map_map]

section
variable {β : Type*}

theorem lookup_append_cons (name other : String) (v : β) (before after : List (String × β)) :
    (before ++ (name, v) :: after).lookup other =
      (before.lookup other).or (if other = name then some v else after.lookup other) := by
  rw [List.lookup_append, List.lookup_cons]
  by_cases h : other = name
  · simp [h]
  · have hbeq : (other == name) = false := by simpa using h
    simp [h, hbeq]

theorem lookup_perm {fields fields' : List (String × β)} (h : fields.Perm fields')
    (hnodup : (fields.map Prod.fst).Nodup) (name : String) :
    fields.lookup name = fields'.lookup name := by
  induction h with
  | nil => rfl
  | cons field _ ih =>
      obtain ⟨k, v⟩ := field
      rw [List.map_cons, List.nodup_cons] at hnodup
      rw [List.lookup_cons, List.lookup_cons, ih hnodup.2]
  | swap f g rest =>
      obtain ⟨k, v⟩ := f
      obtain ⟨l, u⟩ := g
      have hne : l ≠ k := by simp at hnodup; exact hnodup.1.1
      simp only [List.lookup_cons]
      by_cases hk : name = k
      · subst hk
        have hbeq : (name == l) = false := by simpa using Ne.symm hne
        simp [hbeq]
      · have hbeq : (name == k) = false := by simpa using hk
        simp [hbeq]
  | trans hleft _ ih ih' =>
      exact (ih hnodup).trans (ih' ((hleft.map Prod.fst).nodup_iff.mp hnodup))

end

/-- Under every key there is what was there, up to the order of its keys. -/
theorem Reordered.get {v w : Value} (h : Reordered v w) (name : String) :
    Reordered (v.get name) (w.get name) := by
  induction h with
  | refl => exact .refl _
  | trans _ _ ih ih' => exact ih.trans ih'
  | item => exact .refl _
  | field key before after hvw _ =>
      simp only [Value.get, lookup_append_cons]
      cases before.lookup name with
      | some u => exact .refl _
      | none =>
          by_cases hk : name = key
          · simpa [hk] using hvw
          · simpa [hk] using Reordered.refl _
  | keys hperm hnodup =>
      simp only [Value.get, lookup_perm hperm hnodup]
      exact .refl _

theorem Reordered.isDict {v w : Value} (h : Reordered v w) : v.isDict = w.isDict := by
  induction h with
  | trans _ _ ih ih' => exact ih.trans ih'
  | refl | item | field | keys => rfl

theorem Reordered.dictOr {v w : Value} (h : Reordered v w) : Reordered v.dictOr w.dictOr := by
  induction h with
  | refl => exact .refl _
  | trans _ _ ih ih' => exact ih.trans ih'
  | item => exact .refl _
  | field name before after h _ => exact .field name before after h
  | keys hperm hnodup => exact .keys hperm hnodup

mutual

/-- No object in the value has two keys. -/
def rigid : Value → Bool
  | arr items => rigidItems items
  | obj fields => decide (fields.length ≤ 1) && rigidFields fields
  | _ => true

def rigidItems : List Value → Bool
  | [] => true
  | v :: vs => rigid v && rigidItems vs

def rigidFields : List (String × Value) → Bool
  | [] => true
  | (_, v) :: fields => rigid v && rigidFields fields

end

theorem rigidItems_iff {items : List Value} :
    rigidItems items = true ↔ ∀ v ∈ items, v.rigid = true := by
  induction items with
  | nil => simp [rigidItems]
  | cons v vs ih => simp [rigidItems, ih]

theorem rigidFields_iff {fields : List (String × Value)} :
    rigidFields fields = true ↔ ∀ field ∈ fields, field.2.rigid = true := by
  induction fields with
  | nil => simp [rigidFields]
  | cons field fields ih => simp [rigidFields, ih]

/-- Such a value has one order of keys. -/
theorem Reordered.eq_of_rigid {v w : Value} (h : Reordered v w) (hv : v.rigid = true) : w = v := by
  induction h with
  | refl => rfl
  | trans _ _ ih ih' =>
      have hmiddle := ih hv
      exact (ih' (hmiddle ▸ hv)).trans hmiddle
  | item before after _ ih =>
      rw [rigid, rigidItems_iff] at hv
      rw [ih (hv _ (by simp))]
  | field name before after _ ih =>
      rw [rigid, Bool.and_eq_true, rigidFields_iff] at hv
      rw [ih (hv.2 (name, _) (by simp))]
  | keys hperm _ =>
      rw [rigid, Bool.and_eq_true, decide_eq_true_eq] at hv
      rename_i fields fields'
      obtain hnil | ⟨one, hone⟩ := Nat.le_one_iff_eq_zero_or_eq_one.mp hv.1 |>.imp
        List.length_eq_zero_iff.mp List.length_eq_one_iff.mp
      · rw [hnil] at hperm ⊢
        rw [hperm.nil_eq]
      · rw [hone] at hperm ⊢
        rw [List.singleton_perm.mp hperm]

/-! ## Values without floats -/

mutual

def floatFree : Value → Bool
  | float _ => false
  | arr items => floatFreeItems items
  | obj fields => floatFreeFields fields
  | _ => true

def floatFreeItems : List Value → Bool
  | [] => true
  | v :: vs => floatFree v && floatFreeItems vs

def floatFreeFields : List (String × Value) → Bool
  | [] => true
  | (_, v) :: fields => floatFree v && floatFreeFields fields

end

mutual

/-- The document, of a value without floats. -/
def toJson : Value → Json
  | null | float _ => .null
  | bool b => .bool b
  | int n => .int n
  | str s => .str s
  | arr items => .arr (toJsonItems items)
  | obj fields => .obj (toJsonFields fields)

def toJsonItems : List Value → List Json
  | [] => []
  | v :: vs => toJson v :: toJsonItems vs

def toJsonFields : List (String × Value) → List (String × Json)
  | [] => []
  | (name, v) :: fields => (name, toJson v) :: toJsonFields fields

end

theorem floatFreeItems_iff {items : List Value} :
    floatFreeItems items = true ↔ ∀ v ∈ items, v.floatFree = true := by
  induction items with
  | nil => simp [floatFreeItems]
  | cons v vs ih => simp [floatFreeItems, ih]

theorem floatFreeFields_iff {fields : List (String × Value)} :
    floatFreeFields fields = true ↔ ∀ field ∈ fields, field.2.floatFree = true := by
  induction fields with
  | nil => simp [floatFreeFields]
  | cons field fields ih => simp [floatFreeFields, ih]

/-- The document with its objects in the order of their keys. -/
def document (v : Value) : Json := v.toJson.sortKeys

theorem sortItems_toJsonItems (items : List Value) :
    Json.sortItems (toJsonItems items) = items.map document := by
  induction items with
  | nil => rfl
  | cons v vs ih => rw [toJsonItems, Json.sortItems, ih, List.map_cons, document]

theorem sortFields_toJsonFields (fields : List (String × Value)) :
    Json.sortFields (toJsonFields fields) = fields.map fun field => (field.1, field.2.document) := by
  induction fields with
  | nil => rfl
  | cons field fields ih => rw [toJsonFields, Json.sortFields, ih, List.map_cons, document]

theorem document_arr (items : List Value) : document (arr items) = .arr (items.map document) := by
  rw [document, toJson, Json.sortKeys, sortItems_toJsonItems]

theorem document_obj (fields : List (String × Value)) :
    document (obj fields) =
      .obj ((fields.map fun field => (field.1, field.2.document)).insertionSort byKey) := by
  rw [document, toJson, Json.sortKeys, sortFields_toJsonFields]
  rfl

theorem moreItems_render (docs : List Json) :
    moreItems (docs.map (Json.render true)) = Json.renderItems true docs := by
  induction docs with
  | nil => rfl
  | cons doc docs ih => rw [List.map_cons, moreItems, ih, Json.renderItems]

theorem moreFields_render (fields : List (String × Json)) :
    moreFields (fields.map fun field => (field.1, Json.render true field.2)) =
      Json.renderFields true fields := by
  induction fields with
  | nil => rfl
  | cons field fields ih => rw [List.map_cons, moreFields, ih, Json.renderFields]

theorem listText_render (docs : List Json) :
    listText (docs.map (Json.render true)) = Json.render true (.arr docs) := by
  cases docs with
  | nil => rfl
  | cons doc docs => rw [List.map_cons, listText, moreItems_render, Json.render]

theorem dictText_render (fields : List (String × Json)) :
    dictText (fields.map fun field => (field.1, Json.render true field.2)) =
      Json.render true (.obj fields) := by
  cases fields with
  | nil => rfl
  | cons field fields => rw [List.map_cons, dictText, moreFields_render, Json.render]

mutual

/-- The text of a value without floats is that of its document. -/
theorem canonicalText_eq_render (floatText : Float → String) : ∀ v : Value, v.floatFree = true →
    canonicalText floatText v = Json.render true v.document
  | null, _ => rfl
  | bool true, _ => rfl
  | bool false, _ => rfl
  | int _, _ => rfl
  | str _, _ => rfl
  | arr items, h => by
      rw [canonicalText, itemTexts_eq_render floatText items h, document_arr, listText_render]
  | obj fields, h => by
      rw [canonicalText, fieldTexts_eq_render floatText fields h, document_obj, ← map_sorted,
        dictText_render]

theorem itemTexts_eq_render (floatText : Float → String) : ∀ items : List Value,
    floatFreeItems items = true →
    itemTexts floatText items = (items.map document).map (Json.render true)
  | [], _ => rfl
  | v :: vs, h => by
      have hv : v.floatFree = true ∧ floatFreeItems vs = true := by simpa [floatFreeItems] using h
      rw [itemTexts, canonicalText_eq_render floatText v hv.1, itemTexts_eq_render floatText vs hv.2,
        List.map_cons, List.map_cons]

theorem fieldTexts_eq_render (floatText : Float → String) : ∀ fields : List (String × Value),
    floatFreeFields fields = true →
    fieldTexts floatText fields =
      (fields.map fun field => (field.1, field.2.document)).map fun field =>
        (field.1, Json.render true field.2)
  | [], _ => rfl
  | (name, v) :: fields, h => by
      have hv : v.floatFree = true ∧ floatFreeFields fields = true := by
        simpa [floatFreeFields] using h
      rw [fieldTexts, canonicalText_eq_render floatText v hv.1,
        fieldTexts_eq_render floatText fields hv.2, List.map_cons, List.map_cons]

end

/-- One document, up to the order of keys. -/
def SameDocument (v w : Value) : Prop := v.document = w.document

/-- Texts tell documents apart. -/
theorem sameDocument_of_text {floatText : Float → String} {v w : Value}
    (hv : v.floatFree = true) (hw : w.floatFree = true)
    (h : v.canonicalText floatText = w.canonicalText floatText) : SameDocument v w := by
  rw [canonicalText_eq_render floatText v hv, canonicalText_eq_render floatText w hw] at h
  exact Json.dumps_injective true (congrArg String.ofList h)

/-- Objects with one list of keys, in order, are one document field by field. -/
theorem sameDocument_fields {fields fields' : List (String × Value)}
    (h : SameDocument (obj fields) (obj fields')) (names : List String)
    (hsorted : names.Pairwise (· ≤ ·)) (hnames : fields.map Prod.fst = names)
    (hnames' : fields'.map Prod.fst = names) :
    fields.map (fun field => field.2.document) = fields'.map fun field => field.2.document := by
  have hsort : ∀ {fields : List (String × Value)}, (fields.map Prod.fst).Pairwise (· ≤ ·) →
      (fields.map fun field => (field.1, field.2.document)).insertionSort byKey =
        fields.map fun field => (field.1, field.2.document) := by
    intro fields hfields
    refine List.Pairwise.insertionSort_eq ?_
    rw [List.pairwise_map] at hfields ⊢
    exact hfields
  rw [SameDocument, document_obj, document_obj, hsort (hnames ▸ hsorted),
    hsort (hnames' ▸ hsorted)] at h
  have hfields := congrArg (List.map Prod.snd) (Json.obj.inj h)
  rwa [List.map_map, List.map_map] at hfields

/-- As objects with no key twice, they agree under every key. -/
theorem lookup_of_sameDocument {fields fields' : List (String × Value)}
    (hnodup : (fields.map Prod.fst).Nodup) (h : SameDocument (obj fields) (obj fields'))
    (name : String) :
    (fields.lookup name).map document = (fields'.lookup name).map document := by
  have hmap : ∀ fields : List (String × Value), (fields.lookup name).map document =
      (fields.map fun field => (field.1, field.2.document)).lookup name := by
    intro fields
    induction fields with
    | nil => rfl
    | cons field fields ih =>
        rw [List.lookup_cons, List.map_cons, List.lookup_cons]
        cases hname : name == field.1 with
        | true => simp
        | false => simpa using ih
  rw [SameDocument, document_obj, document_obj] at h
  have hperm : (fields.map fun field => (field.1, field.2.document)).Perm
      (fields'.map fun field => (field.1, field.2.document)) :=
    (List.perm_insertionSort byKey _).symm.trans
      ((Json.obj.inj h) ▸ List.perm_insertionSort byKey _)
  rw [hmap, hmap]
  exact lookup_perm hperm (by rwa [List.map_map]) name

theorem floatFree_get {v : Value} (h : v.floatFree = true) (name : String) :
    (v.get name).floatFree = true := by
  cases v with
  | obj fields =>
      rw [floatFree, floatFreeFields_iff] at h
      rw [Value.get]
      cases hlookup : fields.lookup name with
      | none => rfl
      | some u =>
          obtain ⟨before, after, hfields, -⟩ := List.lookup_eq_some_iff.mp hlookup
          exact h (name, u) (by simp [hfields])
  | null | bool | int | float | str | arr => rfl

mutual

/-- No object of the value has a key twice, as no `dict` has. -/
def uniqueKeys : Value → Prop
  | arr items => uniqueKeysItems items
  | obj fields => (fields.map Prod.fst).Nodup ∧ uniqueKeysFields fields
  | _ => True

def uniqueKeysItems : List Value → Prop
  | [] => True
  | v :: vs => uniqueKeys v ∧ uniqueKeysItems vs

def uniqueKeysFields : List (String × Value) → Prop
  | [] => True
  | (_, v) :: fields => uniqueKeys v ∧ uniqueKeysFields fields

end

theorem uniqueKeysFields_iff {fields : List (String × Value)} :
    uniqueKeysFields fields ↔ ∀ field ∈ fields, field.2.uniqueKeys := by
  induction fields with
  | nil => simp [uniqueKeysFields]
  | cons field fields ih => simp [uniqueKeysFields, ih]

theorem uniqueKeys_get {v : Value} (h : v.uniqueKeys) (name : String) :
    (v.get name).uniqueKeys := by
  cases v with
  | obj fields =>
      rw [uniqueKeys, uniqueKeysFields_iff] at h
      rw [Value.get]
      cases hlookup : fields.lookup name with
      | none => trivial
      | some u =>
          obtain ⟨before, after, hfields, -⟩ := List.lookup_eq_some_iff.mp hlookup
          exact h.2 (name, u) (by simp [hfields])
  | null | bool | int | float | str | arr => trivial

end Value

end AskLake.Python

/-
# `AskLake.Trino.ResultCursor` — the cursor of a result page

A cursor is the text of a document and its signature,

    base64(json(document)) . hmac(secret, base64(json(document)))

and says where in the stored pages the next page of the result begins.  `encode_cursor` makes it
and `decode_cursor_position` reads it; what is read was made for the run, with the expiry and the
secret it is read with, as long as nobody else can sign (`decoded_was_encoded`).
-/
import AskLake.Lib.Outcome
import AskLake.Python.Base64
import AskLake.Python.Json

namespace AskLake.Trino

open AskLake.Lib AskLake.Python

inductive ResultPageError
  /-- `Invalid query result cursor` -/
  | invalidCursor
  /-- `Query result cursor does not match this run` -/
  | cursorMismatch
  /-- `RESULT_EXPIRED` -/
  | expired
  /-- `RESULT_PAGE_NOT_READY` -/
  | notReady
  | notFound
  deriving DecidableEq

/-! ## The document -/

structure CursorFields where
  expiresAt : String
  pageIndex : Int
  logicalPageIndex : Int
  rowOffset : Int
  runId : String
  deriving DecidableEq

namespace CursorFields

variable (fields : CursorFields)

/-- The items of the document, with their keys sorted. -/
def items : List (String × Json) :=
  [("expiresAt", .str fields.expiresAt), ("logicalPageIndex", .int fields.logicalPageIndex),
    ("pageIndex", .int fields.pageIndex), ("rowOffset", .int fields.rowOffset),
    ("runId", .str fields.runId), ("version", .int 1)]

def document : Json := .obj fields.items

/-- `json.dumps({…}, separators=(",", ":"), sort_keys=True)` -/
def text : String := Json.dumps true fields.document

/-- `payload_encoded` -/
def encoded : Chars := Base64.encodeText fields.text

end CursorFields

/-- What the cursor needs of the libraries. -/
structure CursorRuntime where
  /-- `hmac.new(secret, text, sha256).hexdigest()` -/
  sign : String → Chars → Chars
  /-- `json.loads`; an error is none. -/
  loads : String → Option Json
  /-- `int(value)`; an error is none. -/
  int : Json → Option Int
  /-- `str(value)` -/
  str : Json → String
  /-- `datetime.fromisoformat(text.replace("Z", "+00:00"))`; an error is none. -/
  fromisoformat : String → Option Int
  fromisoformat_empty : fromisoformat "" = none
  loads_text : ∀ fields : CursorFields, loads fields.text = some fields.document
  int_int : ∀ n, int (.int n) = some n
  str_str : ∀ s, str (.str s) = s

/-! ## `encode_cursor` -/

section

variable (rt : CursorRuntime) (secret : String)

def CursorFields.cursor (fields : CursorFields) : Chars :=
  fields.encoded ++ '.' :: rt.sign secret fields.encoded

def encodeCursor (pageIndex : Int) (runId : String) (retentionExpiresAt : Option String)
    (rowOffset logicalPageIndex : Int) : Except ResultPageError Chars :=
  match retentionExpiresAt with
  | some expiresAt =>
      if pageIndex < 0 ∨ rowOffset < 0 ∨ logicalPageIndex < 0 ∨ expiresAt = "" then .error .expired
      else .ok
        (CursorFields.cursor rt secret ⟨expiresAt, pageIndex, logicalPageIndex, rowOffset, runId⟩)
  | none => .error .expired

/-! ## `decode_cursor_position` -/

/-- `cursor.split(".", maxsplit=1)`, where it has two parts. -/
def splitPoint (cursor : Chars) : Option (Chars × Chars) :=
  if '.' ∈ cursor then
    some (cursor.takeWhile (· ≠ '.'), (cursor.dropWhile (· ≠ '.')).tail)
  else none

/-- The payload of a cursor whose signature is right. -/
def signedPayload (cursor : Chars) : Option (List (String × Json)) := do
  let (encoded, signature) ← splitPoint cursor
  if encoded.all (fun c => c.toNat < 128) ∧ signature = rt.sign secret encoded then
    match rt.loads (← Base64.decodeText encoded) with
    | some (.obj fields) => some fields
    | _ => none
  else none

/-- `value or 0` -/
def orZero : Option Json → Json
  | none => .int 0
  | some .null => .int 0
  | some (.bool false) => .int 0
  | some (.str "") => .int 0
  | some (.arr []) => .int 0
  | some (.obj []) => .int 0
  | some value => value

structure CursorPosition where
  pageIndex : Int
  rowOffset : Int
  logicalPageIndex : Int
  deriving DecidableEq

/-- The part of the function that is in its first `try`: the payload, the position and the
expiry. -/
def readCursor (cursor : Chars) : Option (List (String × Json) × CursorPosition × String) := do
  let fields ← signedPayload rt secret cursor
  let pageIndex ← rt.int (← fields.lookup "pageIndex")
  let rowOffset ← rt.int (orZero (fields.lookup "rowOffset"))
  let logicalPageIndex ← rt.int (orZero (fields.lookup "logicalPageIndex"))
  let expiresAt ← fields.lookup "expiresAt"
  some (fields, ⟨pageIndex, rowOffset, logicalPageIndex⟩, rt.str expiresAt)

/-- `payload.get("version") == 1 and payload.get("runId") == run_id` -/
def isFor (runId : String) (fields : List (String × Json)) : Bool :=
  (match fields.lookup "version" with
    | some (.int n) => n == 1
    | some (.bool b) => b
    | _ => false) &&
    match fields.lookup "runId" with
    | some (.str id) => id == runId
    | _ => false

def decodeCursorPosition (now : Int) (runId : String) (retentionExpiresAt : Option String) :
    Option Chars → Except ResultPageError CursorPosition
  | none => .ok ⟨0, 0, 0⟩
  | some cursor => do
      let (fields, position, expiresAt) ← orReject (readCursor rt secret cursor) .invalidCursor
      rejectIf (isFor runId fields = false ∨ position.pageIndex < 0 ∨ position.rowOffset < 0 ∨
        position.logicalPageIndex < 0) .invalidCursor
      rejectIf (retentionExpiresAt = none ∨ retentionExpiresAt = some "" ∨
        retentionExpiresAt ≠ some expiresAt) .cursorMismatch
      let expiry ← orReject (rt.fromisoformat expiresAt) .invalidCursor
      rejectIf (expiry ≤ now) .expired
      pure position

end

/-! ## Reading what was written -/

section

variable {rt : CursorRuntime} {secret : String}

theorem not_mem_encoded (fields : CursorFields) : '.' ∉ fields.encoded :=
  fun h => (Base64.mem_encode h).1 rfl

theorem splitPoint_cursor {encoded signature : Chars} (h : '.' ∉ encoded) :
    splitPoint (encoded ++ '.' :: signature) = some (encoded, signature) := by
  have hall : ∀ c ∈ encoded, decide (c ≠ '.') = true := fun c hc =>
    decide_eq_true fun heq => h (heq ▸ hc)
  unfold splitPoint
  rw [if_pos (List.mem_append_right _ List.mem_cons_self),
    List.takeWhile_append_of_pos hall, List.dropWhile_append_of_pos hall]
  simp

theorem signedPayload_cursor (fields : CursorFields) :
    signedPayload rt secret (fields.cursor rt secret) = some fields.items := by
  have hascii : fields.encoded.all (fun c => c.toNat < 128) = true :=
    List.all_eq_true.mpr fun c hc => decide_eq_true (Base64.mem_encode hc).2
  have hdecode : Base64.decodeText fields.encoded = some fields.text :=
    Base64.decodeText_encodeText fields.text
  unfold signedPayload CursorFields.cursor
  rw [splitPoint_cursor (not_mem_encoded fields)]
  dsimp only [Option.bind_eq_bind, Option.bind_some]
  rw [if_pos ⟨hascii, rfl⟩, hdecode, Option.bind_some, rt.loads_text]
  rfl

theorem isFor_items (fields : CursorFields) (runId : String) :
    isFor runId fields.items = (fields.runId == runId) := by
  simp [isFor, CursorFields.items, List.lookup_cons]

theorem readCursor_cursor (fields : CursorFields) :
    readCursor rt secret (fields.cursor rt secret) =
      some (fields.items, ⟨fields.pageIndex, fields.rowOffset, fields.logicalPageIndex⟩,
        fields.expiresAt) := by
  unfold readCursor
  rw [signedPayload_cursor]
  simp [CursorFields.items, List.lookup_cons, orZero, rt.int_int, rt.str_str]

/-- `decode_cursor_position` inverts `encode_cursor` until the retention has passed. -/
theorem decode_encode {runId : String} {expiresAt : String} {position : CursorPosition}
    {cursor : Chars} {now expiry : Int}
    (h : encodeCursor rt secret position.pageIndex runId (some expiresAt) position.rowOffset
      position.logicalPageIndex = .ok cursor)
    (hexpiry : rt.fromisoformat expiresAt = some expiry) (hnow : now < expiry) :
    decodeCursorPosition rt secret now runId (some expiresAt) (some cursor) = .ok position := by
  unfold encodeCursor at h
  dsimp only at h
  split at h
  · exact nomatch h
  · rename_i hbounds
    cases Except.ok.inj h
    refine bind_eq_ok.mpr ⟨_, orReject_eq_ok.mpr (readCursor_cursor _), ?_⟩
    refine bind_eq_ok.mpr ⟨(), rejectIf_eq_ok.mpr ?_, ?_⟩
    · rw [isFor_items]
      rintro (hrun | hneg | hneg | hneg)
      · simp at hrun
      · exact hbounds (Or.inl hneg)
      · exact hbounds (Or.inr (Or.inl hneg))
      · exact hbounds (Or.inr (Or.inr (Or.inl hneg)))
    refine bind_eq_ok.mpr ⟨(), rejectIf_eq_ok.mpr ?_, ?_⟩
    · rintro (hnone | hempty | hother)
      · exact nomatch hnone
      · exact hbounds (Or.inr (Or.inr (Or.inr (Option.some.inj hempty))))
      · exact hother rfl
    refine bind_eq_ok.mpr ⟨expiry, orReject_eq_ok.mpr hexpiry, ?_⟩
    exact bind_eq_ok.mpr ⟨(), rejectIf_eq_ok.mpr (Int.not_le.mpr hnow), rfl⟩

/-! ## Nobody else signs -/

/-- A text that carries its signature was signed by `encode_cursor`. -/
def Unforged (rt : CursorRuntime) (secret : String) (cursor : Chars) : Prop :=
  ∀ encoded, '.' ∉ encoded → cursor = encoded ++ '.' :: rt.sign secret encoded →
    ∃ fields : CursorFields, encoded = fields.encoded

/-- `encode_cursor` makes the cursor for this run, this expiry and this secret. -/
def Produced (rt : CursorRuntime) (secret runId : String) (retentionExpiresAt : Option String)
    (cursor : Chars) : Prop :=
  ∃ position : CursorPosition, encodeCursor rt secret position.pageIndex runId retentionExpiresAt
    position.rowOffset position.logicalPageIndex = .ok cursor

theorem split_at_point {cursor : Chars} (h : '.' ∈ cursor) :
    cursor = cursor.takeWhile (· ≠ '.') ++ '.' :: (cursor.dropWhile (· ≠ '.')).tail := by
  induction cursor with
  | nil => exact nomatch h
  | cons c cs ih =>
      by_cases hc : c = '.'
      · subst hc
        simp
      · have hmem : '.' ∈ cs := (List.mem_cons.mp h).resolve_left fun heq => hc heq.symm
        rw [List.takeWhile_cons_of_pos (by simpa using hc),
          List.dropWhile_cons_of_pos (by simpa using hc), List.cons_append, ← ih hmem]

theorem splitPoint_eq_some {cursor encoded signature : Chars}
    (h : splitPoint cursor = some (encoded, signature)) :
    '.' ∉ encoded ∧ cursor = encoded ++ '.' :: signature := by
  unfold splitPoint at h
  split at h
  · rename_i hmem
    cases Option.some.inj h
    refine ⟨fun hpoint => ?_, ?_⟩
    · have := List.mem_takeWhile_imp hpoint
      simp at this
    · exact split_at_point hmem
  · exact nomatch h

theorem cursor_of_signedPayload {cursor : Chars} {items : List (String × Json)}
    (h : signedPayload rt secret cursor = some items) (hunforged : Unforged rt secret cursor) :
    ∃ fields : CursorFields, cursor = fields.cursor rt secret := by
  unfold signedPayload at h
  obtain ⟨⟨encoded, signature⟩, hsplit, h⟩ := Option.bind_eq_some_iff.mp h
  obtain ⟨hpoint, hcursor⟩ := splitPoint_eq_some hsplit
  dsimp only at h
  split at h
  · rename_i hsigned
    rw [hsigned.2] at hcursor
    obtain ⟨fields, rfl⟩ := hunforged encoded hpoint hcursor
    exact ⟨fields, hcursor⟩
  · exact nomatch h

/-- What is read was made for the run, the expiry and the secret it is read with. -/
theorem decoded_was_produced {now : Int} {runId : String} {retentionExpiresAt : Option String}
    {cursor : Chars} {position : CursorPosition} (hunforged : Unforged rt secret cursor)
    (h : decodeCursorPosition rt secret now runId retentionExpiresAt (some cursor) =
      .ok position) : Produced rt secret runId retentionExpiresAt cursor := by
  obtain ⟨⟨items, position', expiresAt⟩, hread, h⟩ := bind_eq_ok.mp h
  have hread := orReject_eq_ok.mp hread
  obtain ⟨_, hfor, h⟩ := bind_eq_ok.mp h
  have hfor := rejectIf_eq_ok.mp hfor
  obtain ⟨_, hexpiry, -⟩ := bind_eq_ok.mp h
  have hexpiry := rejectIf_eq_ok.mp hexpiry
  have hsigned : ∃ items, signedPayload rt secret cursor = some items := by
    unfold readCursor at hread
    obtain ⟨items, hitems, -⟩ := Option.bind_eq_some_iff.mp hread
    exact ⟨items, hitems⟩
  obtain ⟨_, hsigned⟩ := hsigned
  obtain ⟨fields, rfl⟩ := cursor_of_signedPayload hsigned hunforged
  cases Option.some.inj (hread.symm.trans (readCursor_cursor fields))
  rw [isFor_items] at hfor
  simp only [not_or, Bool.not_eq_false, beq_iff_eq, not_not] at hfor hexpiry
  obtain ⟨rfl, hpage, hoffset, hlogical⟩ := hfor
  obtain ⟨-, hempty, rfl⟩ := hexpiry
  refine ⟨⟨fields.pageIndex, fields.rowOffset, fields.logicalPageIndex⟩, if_neg ?_⟩
  rintro (hneg | hneg | hneg | hneg)
  · exact hpage hneg
  · exact hoffset hneg
  · exact hlogical hneg
  · exact hempty (congrArg some hneg)

end

end AskLake.Trino

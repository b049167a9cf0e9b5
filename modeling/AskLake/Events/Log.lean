/-
# `AskLake.Events.Log` — appending to the durable event log

`append` validates the event, then inserts it unless an event with the same
idempotency key is there already:

    (id, created)     created = false for an event that was there before

Its fallback for an insert that meets a unique violation has no counterpart
here: the lookup before it reads the store the insert goes to.
-/
import AskLake.Store
import Mathlib.Data.List.Infix

namespace AskLake.Events

open AskLake.Lib AskLake.Python

/-- The settings the repositories read. -/
structure Deployment extends Runtime where
  realtimeEventsEnabled : Bool := false
  realtimeEventPayloadMaxBytes : Nat := 8192

/-- What a caller of `append` names. -/
structure EventDraft where
  eventType : String
  resourceType : String
  resourceId : String
  aggregateRevision : Int
  correlationId : String
  idempotencyKey : String
  invalidations : List String
  payload : List (String × Json)
  schemaVersion : Nat := 1

/-! ## `validate_realtime_event` -/

/-- `EVENT_TYPE_REGISTRY` -/
def eventTypeRegistry : String → Option (String × List String)
  | "dataset.revision.committed" => some ("dataset", ["runId", "commitKind"])
  | "dashboard.published" => some ("dashboard", ["publishedRevisionId"])
  | _ => none

def requiredV2Keys : List String :=
  ["bindingEpoch", "materializationId", "mutationType", "sourceBoundary", "servingVersionId",
    "pipelineVersionId"]

def secretKeyFragments : List String :=
  ["authorization", "cookie", "credential", "password", "secret", "token", "api_key", "apikey"]

def secretLike (rt : Runtime) (key : String) : Bool :=
  let normalizedKey := (rt.casefold key).toList.map fun c => if c = '-' then '_' else c
  secretKeyFragments.any fun fragment => decide (fragment.toList <:+: normalizedKey)

mutual
/-- `_reject_secret_fields` -/
def rejectSecretFields (rt : Runtime) (path : List String) : Json → Except Error Unit
  | .obj fields => rejectSecretsIn rt path fields
  | .arr items => rejectSecretsAt rt path 0 items
  | _ => .ok ()

def rejectSecretsIn (rt : Runtime) (path : List String) :
    List (String × Json) → Except Error Unit
  | [] => .ok ()
  | (key, child) :: rest => do
      rejectIf (secretLike rt key) (.value ("Realtime event payload contains a secret-like field: "
        ++ ".".intercalate (path ++ [key])))
      rejectSecretFields rt (path ++ [key]) child
      rejectSecretsIn rt path rest

def rejectSecretsAt (rt : Runtime) (path : List String) (index : Nat) :
    List Json → Except Error Unit
  | [] => .ok ()
  | child :: rest => do
      rejectSecretFields rt (path ++ [toString index]) child
      rejectSecretsAt rt path (index + 1) rest
end

/-- `", ".join(sorted(names))` -/
def joinSorted (names : List String) : String :=
  ", ".intercalate (names.insertionSort fun a b => a ≤ b)

/-- The size of the encoded event body. -/
def encodedSize (draft : EventDraft) : Nat :=
  (Json.dumpsSorted false (.obj [("invalidate", .arr (draft.invalidations.map Json.str)),
    ("payload", .obj draft.payload)])).utf8ByteSize

def validateRealtimeEvent (env : Deployment) (draft : EventDraft) : Except Error Unit := do
  let (expectedResourceType, allowedPayloadKeys) ← orReject (eventTypeRegistry draft.eventType)
    (.value ("Unsupported realtime event type: " ++ draft.eventType))
  rejectIf (draft.resourceType ≠ expectedResourceType)
    (.value ("Realtime event " ++ draft.eventType ++ " requires resource type "
      ++ expectedResourceType))
  rejectIf (draft.resourceId = "" ∨ 160 < draft.resourceId.length)
    (.value "Realtime event requires a bounded resource id")
  rejectIf (draft.aggregateRevision < 0)
    (.value "Realtime event aggregate revision must be non-negative")
  rejectIf (draft.correlationId = "" ∨ 160 < draft.correlationId.length)
    (.value "Realtime event requires a bounded correlation id")
  rejectIf (20 < draft.invalidations.length ∨
      ∃ item ∈ draft.invalidations, item = "" ∨ 256 < item.length)
    (.value "Realtime event invalidation list is invalid")
  rejectIf (draft.schemaVersion = 2 ∧ draft.eventType ≠ "dataset.revision.committed")
    (.value "Realtime event schema v2 currently supports Dataset revisions only")
  rejectIf (draft.schemaVersion ≠ 1 ∧ draft.schemaVersion ≠ 2)
    (.value "Unsupported realtime event schema version")
  let effectiveAllowedKeys := if draft.schemaVersion = 2 then requiredV2Keys else allowedPayloadKeys
  let keys := draft.payload.map Prod.fst
  let unexpected := keys.filter fun key => key ∉ effectiveAllowedKeys
  rejectIf (unexpected ≠ [])
    (.value ("Realtime event payload contains unsupported fields: " ++ joinSorted unexpected))
  let missing := if draft.schemaVersion = 2 then requiredV2Keys.filter fun key => key ∉ keys else []
  rejectIf (missing ≠ [])
    (.value ("Realtime event schema v2 payload is missing fields: " ++ joinSorted missing))
  rejectSecretFields env.toRuntime [] (.obj draft.payload)
  rejectIf (env.realtimeEventPayloadMaxBytes < encodedSize draft)
    (.value "Realtime event payload exceeds the configured size limit")

/-! ## `RealtimeEventRepository.append` -/

def byIdempotencyKey (db : Db) (key : String) : Option Event :=
  db.events.find? fun e => e.idempotencyKey = key

/-- The checks of `append` that come before it reads the log. -/
def checkDraft (env : Deployment) (draft : EventDraft) : Except Error Unit := do
  validateRealtimeEvent env draft
  rejectIf (strip draft.idempotencyKey = "" ∨ 256 < (strip draft.idempotencyKey).length)
    (.value "Realtime event requires a bounded idempotency key")

/-- The row an accepted draft becomes. -/
def EventDraft.row (draft : EventDraft) (id : Nat) : Event where
  id := id
  eventType := draft.eventType
  schemaVersion := draft.schemaVersion
  resourceType := draft.resourceType
  resourceId := draft.resourceId
  aggregateRevision := draft.aggregateRevision
  correlationId := draft.correlationId
  idempotencyKey := strip draft.idempotencyKey
  invalidations := draft.invalidations
  payload := .obj draft.payload

def append (env : Deployment) (db : Db) (draft : EventDraft) : Except Error (Db × Nat × Bool) := do
  checkDraft env draft
  match byIdempotencyKey db (strip draft.idempotencyKey) with
  | some existing => pure (db, existing.id, false)
  | none =>
      let id := db.eventSequence + 1
      pure ({ db with events := db.events ++ [draft.row id], eventSequence := id }, id, true)

theorem append_created {env : Deployment} {db db' : Db} {draft : EventDraft} {id : Nat}
    (h : append env db draft = .ok (db', id, true)) :
    checkDraft env draft = .ok () ∧ byIdempotencyKey db (strip draft.idempotencyKey) = none ∧
      id = db.eventSequence + 1 ∧
      db' = { db with events := db.events ++ [draft.row id], eventSequence := id } := by
  obtain ⟨_, hcheck, hbody⟩ := bind_eq_ok.mp h
  refine ⟨hcheck, ?_⟩
  split at hbody
  · cases pure_eq_ok.mp hbody
  · rename_i hnone
    have hpair := pure_eq_ok.mp hbody
    simp only [Prod.mk.injEq, and_true] at hpair
    obtain ⟨rfl, rfl⟩ := hpair
    exact ⟨hnone, rfl, rfl⟩

theorem append_new {env : Deployment} {db : Db} {draft : EventDraft}
    (hcheck : checkDraft env draft = .ok ())
    (hnone : byIdempotencyKey db (strip draft.idempotencyKey) = none) :
    append env db draft = .ok ({ db with
      events := db.events ++ [draft.row (db.eventSequence + 1)]
      eventSequence := db.eventSequence + 1 }, db.eventSequence + 1, true) := by
  refine bind_eq_ok.mpr ⟨(), hcheck, ?_⟩
  rw [hnone]
  rfl

/-- Whatever `append` answers, it only ever adds the event it was given. -/
theorem append_eq_ok {env : Deployment} {db db' : Db} {draft : EventDraft} {id : Nat}
    {created : Bool} (h : append env db draft = .ok (db', id, created)) :
    (created = false ∧ db' = db) ∨
      (created = true ∧ id = db.eventSequence + 1 ∧
        db' = { db with events := db.events ++ [draft.row id], eventSequence := id }) := by
  cases created with
  | true =>
      obtain ⟨-, -, hid, hdb⟩ := append_created h
      exact Or.inr ⟨rfl, hid, hdb⟩
  | false =>
      obtain ⟨_, -, hbody⟩ := bind_eq_ok.mp h
      split at hbody
      · have hpair := pure_eq_ok.mp hbody
        simp only [Prod.mk.injEq, and_true] at hpair
        exact Or.inl ⟨rfl, hpair.1.symm⟩
      · have hpair := pure_eq_ok.mp hbody
        simp at hpair

/-- The key of an accepted draft was there already, or it is there now. -/
theorem append_found {env : Deployment} {db db' : Db} {draft : EventDraft} {id : Nat}
    {created : Bool} (h : append env db draft = .ok (db', id, created)) :
    checkDraft env draft = .ok () ∧
      (((byIdempotencyKey db (strip draft.idempotencyKey)).isSome ∧ db' = db) ∨
        (byIdempotencyKey db (strip draft.idempotencyKey) = none ∧
          db' = { db with
            events := db.events ++ [draft.row (db.eventSequence + 1)]
            eventSequence := db.eventSequence + 1 })) := by
  obtain ⟨_, hcheck, hbody⟩ := bind_eq_ok.mp h
  refine ⟨hcheck, ?_⟩
  split at hbody
  · rename_i existing hfound
    have hpair := pure_eq_ok.mp hbody
    simp only [Prod.mk.injEq] at hpair
    exact .inl ⟨by rw [hfound]; rfl, hpair.1.symm⟩
  · rename_i hnone
    have hpair := pure_eq_ok.mp hbody
    simp only [Prod.mk.injEq] at hpair
    exact .inr ⟨hnone, hpair.1.symm⟩

theorem append_of_checked {env : Deployment} {db : Db} {draft : EventDraft}
    (hcheck : checkDraft env draft = .ok ()) :
    ∃ db' id created, append env db draft = .ok (db', id, created) := by
  unfold append
  rw [hcheck]
  cases byIdempotencyKey db (strip draft.idempotencyKey) with
  | some existing => exact ⟨_, _, _, rfl⟩
  | none => exact ⟨_, _, _, rfl⟩

end AskLake.Events

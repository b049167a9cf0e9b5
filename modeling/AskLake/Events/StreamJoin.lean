/-
# `AskLake.Events.StreamJoin` — no gap and no repeat between replay and live delivery

An event above the cursor reaches the stream by the snapshot, by its queue, or by both:

    cursor  …  subscribed at  …  max cursor  …  dispatcher's cursor
            replay             |
                   queue                                          |

What was committed when the stream subscribed is at or below the snapshot's max, so it is
replayed; what is above the dispatcher's cursor of that time is published for the subscription.
The two overlap, and the stream skips what is not above the last event it has yielded.

This takes an event above the cursor that has not expired when the bounds are read.  One that
has is in neither; the bounds tell of it only where an older event is missing as well and
another one is left.
-/
import AskLake.Events.EventStream
import AskLake.Lib.Stretch

namespace AskLake.Events

open AskLake.Lib

/-! ## What the stream is for -/

/-- The events of these resources, in the order of their ids. -/
def requestedEvents (settings : StreamSettings) (committed : List LogRow)
    (resources : List (String × String)) : List RealtimeEventEnvelope :=
  (committed.filter fun row => resources.contains (settings.resourceOf row.id)).map
    settings.envelope

namespace EventStream

def domainEvents (stream : EventStream) : List RealtimeEventEnvelope :=
  stream.yielded.filterMap fun
    | .domain event => some event
    | _ => none

/-- The `currentCursor` of `stream.ready`. -/
def announced (stream : EventStream) : Nat :=
  (stream.yielded.findSome? fun
    | .ready currentCursor => some currentCursor
    | _ => none).getD 0

/-- The cursor the stream was opened with, or else the one it has announced. -/
def since (stream : EventStream) : Nat := stream.initialCursor.getD stream.announced

def lastYielded (stream : EventStream) : Nat :=
  stream.domainEvents.getLast?.elim stream.since RealtimeEventEnvelope.eventId

/-- The stream has yielded the requested events above its cursor, up to the last one yielded. -/
def Exact (settings : StreamSettings) (committed : List LogRow) (stream : EventStream) : Prop :=
  stream.domainEvents = stretch RealtimeEventEnvelope.eventId
    (requestedEvents settings committed stream.resources) stream.since stream.lastYielded

end EventStream

namespace Realtime

/-- No repeat and no gap in what the stream has yielded. -/
def Joined (settings : StreamSettings) (s : Realtime) : Prop :=
  ∀ stream, s.stream = some stream →
    (stream.domainEvents.Pairwise fun a b => a.eventId < b.eventId) ∧
      stream.Exact settings s.dispatch.committed

/-! ## What is assumed of a run -/

/-- Events become visible in the order of their ids. -/
def VisibleInOrder (settings : StreamSettings) (s : Realtime) : RealtimeAction → Prop
  | .log (.commit transaction) =>
      (s.step settings (.log (.commit transaction))).dispatch.committed.Pairwise
        fun a b => a.id < b.id
  | _ => True

/-- While there is a stream, no event expires, and none is expired when it becomes visible. -/
def NoneExpires (settings : StreamSettings) (s : Realtime) (action : RealtimeAction) : Prop :=
  s.stream.isSome →
    ∀ row ∈ (s.step settings action).dispatch.committed,
      row.expiresAt ≤ (s.step settings action).dispatch.now →
        row ∈ s.dispatch.committed ∧ row.expiresAt ≤ s.dispatch.now

/-- No requested event above the cursor has expired, or the bounds tell that the cursor has. -/
def BoundsTell (settings : StreamSettings) (d : DispatchState) (stream : EventStream) : Prop :=
  EventStream.cursorExpired ⟨minCursor d, maxCursor d, []⟩
      (stream.initialCursor.getD (maxCursor d)) = true ∨
    ∀ row ∈ d.committed, stream.resources.contains (settings.resourceOf row.id) = true →
      stream.initialCursor.getD (maxCursor d) < row.id → d.now < row.expiresAt

/-- When the bounds are read, they tell what is missing. -/
def CursorKept (settings : StreamSettings) (s : Realtime) : RealtimeAction → Prop
  | .readBounds =>
      match s.stream with
      | some stream => stream.phase = .subscribed → BoundsTell settings s.dispatch stream
      | none => True
  | _ => True

/-- The process after the dispatcher has read its cursor, before any session. -/
structure Started (s : Realtime) : Prop where
  committed : s.dispatch.committed.Pairwise fun a b => a.id < b.id
  cursor : s.dispatch.lastCursor = maxCursor s.dispatch
  page : s.page = []
  hub : s.hub = RealtimeEventHub.start
  stream : s.stream = none

/-! ## The log and the dispatcher -/

section
variable {settings : StreamSettings}

theorem mem_requestedEvents {committed : List LogRow} {resources : List (String × String)}
    {event : RealtimeEventEnvelope} :
    event ∈ requestedEvents settings committed resources ↔
      ∃ row ∈ committed, resources.contains (settings.resourceOf row.id) = true ∧
        settings.envelope row = event := by
  unfold requestedEvents
  rw [List.mem_map]
  refine exists_congr fun row => ?_
  rw [List.mem_filter, and_assoc]

theorem requestedEvents_pairwise {committed : List LogRow}
    (h : committed.Pairwise fun a b => a.id < b.id) (resources : List (String × String)) :
    (requestedEvents settings committed resources).Pairwise fun a b => a.eventId < b.eventId :=
  List.pairwise_map.mpr (h.sublist List.filter_sublist)

/-- The id zero, or that of an event of the log: later events are above it. -/
def AtLogged (committed : List LogRow) (id : Nat) : Prop :=
  id = 0 ∨ ∃ row ∈ committed, row.id = id

theorem AtLogged.append {committed more : List LogRow} {id : Nat} (h : AtLogged committed id) :
    AtLogged (committed ++ more) id := by
  rcases h with rfl | ⟨row, hrow, rfl⟩
  · exact .inl rfl
  · exact .inr ⟨row, List.mem_append_left _ hrow, rfl⟩

/-- A new event is above what is logged, and above any id that is not. -/
theorem AtLogged.lt {committed more : List LogRow} {id low : Nat}
    (h : AtLogged committed id)
    (hsorted : (committed ++ more).Pairwise fun a b => a.id < b.id)
    {row : LogRow} (hrow : row ∈ more) (hlow : low < row.id) : id < row.id := by
  rcases h with rfl | ⟨old, hold, rfl⟩
  · exact Nat.zero_lt_of_lt hlow
  · exact (List.pairwise_append.mp hsorted).2.2 old hold row hrow

/-- The stretch up to a logged id does not change when events are appended. -/
theorem stretch_requested_append {committed more : List LogRow} {low high : Nat}
    (hhigh : AtLogged committed high ∨ high ≤ low)
    (hsorted : (committed ++ more).Pairwise fun a b => a.id < b.id)
    (resources : List (String × String)) :
    stretch RealtimeEventEnvelope.eventId (requestedEvents settings (committed ++ more) resources)
        low high =
      stretch RealtimeEventEnvelope.eventId (requestedEvents settings committed resources)
        low high := by
  rcases hhigh with hhigh | hle
  · have happend : requestedEvents settings (committed ++ more) resources =
        requestedEvents settings committed resources ++ requestedEvents settings more resources := by
      unfold requestedEvents
      rw [List.filter_append, List.map_append]
    rw [happend]
    refine stretch_append fun event hevent hlow hle => ?_
    obtain ⟨row, hrow, -, rfl⟩ := mem_requestedEvents.mp hevent
    exact absurd hle (Nat.not_le_of_lt (hhigh.lt hsorted hrow hlow))
  · rw [stretch_eq_nil hle, stretch_eq_nil hle]

/-- The state of the log, of the dispatcher and of its page. -/
structure Ordered (s : Realtime) : Prop where
  committed : s.dispatch.committed.Pairwise fun a b => a.id < b.id
  cursor : AtLogged s.dispatch.committed s.dispatch.lastCursor
  page : s.page.Pairwise fun a b => a.id < b.id
  pageRows : ∀ row ∈ s.page, row ∈ s.dispatch.committed
  pageFull : ∀ last ∈ s.page, ∀ row ∈ s.dispatch.committed, s.dispatch.now < row.expiresAt →
    s.dispatch.lastCursor < row.id → row.id ≤ last.id → row ∈ s.page
  hubIds : ∀ subscription ∈ s.hub.subscriptions, subscription.subscriptionId < s.hub.nextId

theorem atLogged_maxCursor (d : DispatchState) : AtLogged d.committed (maxCursor d) := by
  have hmax : ∀ (ids : List Nat) (start : Nat),
      ids.foldl max start = start ∨ ids.foldl max start ∈ ids := by
    intro ids
    induction ids with
    | nil => exact fun _ => .inl rfl
    | cons id ids ih =>
        intro start
        rw [List.foldl_cons]
        rcases ih (max start id) with heq | hmem
        · rw [heq]
          rcases Nat.le_total start id with hle | hle
          · rw [Nat.max_eq_right hle]
            exact .inr List.mem_cons_self
          · rw [Nat.max_eq_left hle]
            exact .inl rfl
        · exact .inr (List.mem_cons_of_mem _ hmem)
  rcases hmax ((visible d 0).map LogRow.id) 0 with hzero | hmem
  · exact .inl hzero
  · obtain ⟨row, hrow, hid⟩ := List.mem_map.mp hmem
    exact .inr ⟨row, (mem_visible.mp hrow).1, hid⟩

theorem Started.ordered {s : Realtime} (h : Started s) : Ordered s := by
  refine ⟨h.committed, ?_, ?_, ?_, ?_, ?_⟩
  · rw [h.cursor]
    exact atLogged_maxCursor _
  · rw [h.page]
    exact .nil
  · rw [h.page]
    exact fun _ hrow => nomatch hrow
  · rw [h.page]
    exact fun _ hrow => nomatch hrow
  · rw [h.hub]
    exact fun _ hsub => nomatch hsub

/-- The log after a writer's action or a tick of the clock. -/
theorem dispatchStep_log (dispatch : DispatchSettings) (d : DispatchState)
    (action : DispatchAction) (hpage : action ≠ .page) :
    ∃ more, (dispatchStep dispatch d action).committed = d.committed ++ more ∧
      (dispatchStep dispatch d action).lastCursor = d.lastCursor ∧
      d.now ≤ (dispatchStep dispatch d action).now ∧
      ((∀ transaction, action ≠ .commit transaction) → more = []) := by
  cases action with
  | allocate transaction occurredAt =>
      exact ⟨[], (List.append_nil _).symm, rfl, le_refl _, fun _ => rfl⟩
  | commit transaction => exact ⟨_, rfl, rfl, le_refl _, fun h => absurd rfl (h transaction)⟩
  | rollback transaction => exact ⟨[], (List.append_nil _).symm, rfl, le_refl _, fun _ => rfl⟩
  | tick seconds =>
      exact ⟨[], (List.append_nil _).symm, rfl, Nat.le_add_right _ _, fun _ => rfl⟩
  | page => exact absurd rfl hpage

/-- The log grows at its end, and time goes on. -/
structure Grows (s s' : Realtime) (more : List LogRow) : Prop where
  committed : s'.dispatch.committed = s.dispatch.committed ++ more
  sorted : (s.dispatch.committed ++ more).Pairwise fun a b => a.id < b.id
  cursor : s'.dispatch.lastCursor = s.dispatch.lastCursor
  now : s.dispatch.now ≤ s'.dispatch.now
  page : s'.page = s.page
  hub : s'.hub = s.hub
  stream : s'.stream = s.stream

theorem Ordered.grows {s s' : Realtime} {more : List LogRow} (h : Ordered s)
    (hgrows : Grows s s' more) : Ordered s' := by
  refine ⟨hgrows.committed ▸ hgrows.sorted, ?_, hgrows.page ▸ h.page, ?_, ?_, hgrows.hub ▸ h.hubIds⟩
  · rw [hgrows.committed, hgrows.cursor]
    exact h.cursor.append
  · intro row hrow
    rw [hgrows.committed]
    rw [hgrows.page] at hrow
    exact List.mem_append_left _ (h.pageRows row hrow)
  · intro last hlast row hrow hlive hlt hle
    rw [hgrows.committed] at hrow
    rw [hgrows.cursor] at hlt
    rw [hgrows.page] at hlast ⊢
    rcases List.mem_append.mp hrow with hold | hnew
    · exact h.pageFull last hlast row hold (lt_of_le_of_lt hgrows.now hlive) hlt hle
    · have habove := (List.pairwise_append.mp hgrows.sorted).2.2 last (h.pageRows last hlast) row hnew
      exact absurd hle (Nat.not_le_of_lt habove)

/-- A loaded page holds all unexpired events up to its last one. -/
theorem Ordered.load {s : Realtime} (h : Ordered s) : Ordered (s.load settings) := by
  unfold Realtime.load
  split
  · have hids : (s.dispatch.committed.map LogRow.id).Nodup :=
      List.pairwise_map.mpr (h.committed.imp fun hlt => Nat.ne_of_lt hlt)
    have hsorted := visibleInOrder_sorted hids s.dispatch.lastCursor
    have hsub := dispatchAfter_sublist (s := s.dispatch) s.dispatch.lastCursor
      settings.dispatch.replayLimit
    refine ⟨h.committed, h.cursor, hsorted.sublist hsub, ?_, ?_, h.hubIds⟩
    · intro row hrow
      exact (mem_visible.mp (mem_visibleInOrder.mp (hsub.subset hrow))).1
    · intro last hlast row hrow hlive hlt hle
      have hrow : row ∈ visibleInOrder s.dispatch s.dispatch.lastCursor :=
        mem_visibleInOrder.mpr (mem_visible.mpr ⟨hrow, hlt, hlive⟩)
      unfold dispatchAfter at hlast ⊢
      rw [← List.take_append_drop (max 1 settings.dispatch.replayLimit).toNat
        (visibleInOrder s.dispatch s.dispatch.lastCursor)] at hrow hsorted
      rcases List.mem_append.mp hrow with hin | hout
      · exact hin
      · have habove := (List.pairwise_append.mp hsorted).2.2 last hlast row hout
        exact absurd hle (Nat.not_le_of_lt habove)
  · exact h

/-! ## The subscription in the hub -/

theorem find_change_self (hub : RealtimeEventHub) (id : Nat)
    {f : RealtimeSubscription → RealtimeSubscription}
    (hf : ∀ subscription, (f subscription).subscriptionId = subscription.subscriptionId) :
    (hub.change id f).subscriptions.find? (fun subscription => subscription.subscriptionId = id) =
      (hub.subscriptions.find? fun subscription => subscription.subscriptionId = id).map f := by
  unfold RealtimeEventHub.change
  dsimp only
  induction hub.subscriptions with
  | nil => rfl
  | cons first rest ih =>
      by_cases hid : first.subscriptionId = id
      · simp [hid, hf]
      · simp [hid, ih]

theorem find_change_other (hub : RealtimeEventHub) {id other : Nat} (hne : other ≠ id)
    {f : RealtimeSubscription → RealtimeSubscription}
    (hf : ∀ subscription, (f subscription).subscriptionId = subscription.subscriptionId) :
    (hub.change other f).subscriptions.find?
        (fun subscription => subscription.subscriptionId = id) =
      hub.subscriptions.find? fun subscription => subscription.subscriptionId = id := by
  unfold RealtimeEventHub.change
  dsimp only
  induction hub.subscriptions with
  | nil => rfl
  | cons first rest ih =>
      by_cases hother : first.subscriptionId = other
      · have hid : first.subscriptionId ≠ id := fun heq => hne (hother.symm.trans heq)
        simp [hother, hf, hne, ih]
      · by_cases hid : first.subscriptionId = id
        · simp [hid, Ne.symm hne]
        · simp [hother, hid, ih]

theorem receive_subscriptionId (size : Nat) (event : RealtimeEventEnvelope)
    (subscription : RealtimeSubscription) :
    (subscription.receive size event).subscriptionId = subscription.subscriptionId := by
  unfold RealtimeSubscription.receive
  split <;> rfl

theorem get_subscriptionId (subscription : RealtimeSubscription) :
    subscription.get.subscriptionId = subscription.subscriptionId := by
  unfold RealtimeSubscription.get
  split <;> rfl

theorem find_publish (hub : RealtimeEventHub) (id : Nat) (event : RealtimeEventEnvelope) :
    (hub.step settings.hub (.publish event)).subscriptions.find?
        (fun subscription => subscription.subscriptionId = id) =
      (hub.subscriptions.find? fun subscription => subscription.subscriptionId = id).map
        (.receive settings.hub.realtimeSubscriberQueueSize event) := by
  unfold RealtimeEventHub.step
  dsimp only
  rw [List.find?_map]
  congr 2
  funext subscription
  rw [Function.comp, receive_subscriptionId]

/-- A new subscription does not hide an older one. -/
theorem find_subscribe (hub : RealtimeEventHub) {id : Nat} {subscription : RealtimeSubscription}
    (h : hub.subscriptions.find? (fun subscription => subscription.subscriptionId = id) =
      some subscription) (actorKey : String) (resources : List (String × String)) :
    (hub.subscribe settings.hub actorKey resources).subscriptions.find?
      (fun subscription => subscription.subscriptionId = id) = some subscription := by
  unfold RealtimeEventHub.subscribe
  split
  · exact h
  · dsimp only
    rw [List.find?_append, h]
    rfl

theorem hubIds_change {hub : RealtimeEventHub}
    (h : ∀ subscription ∈ hub.subscriptions, subscription.subscriptionId < hub.nextId) (id : Nat)
    {f : RealtimeSubscription → RealtimeSubscription}
    (hf : ∀ subscription, (f subscription).subscriptionId = subscription.subscriptionId) :
    ∀ subscription ∈ (hub.change id f).subscriptions,
      subscription.subscriptionId < (hub.change id f).nextId := by
  intro changed hchanged
  obtain ⟨subscription, hmem, rfl⟩ := List.mem_map.mp hchanged
  split
  · rw [hf]
    exact h subscription hmem
  · exact h subscription hmem

theorem hubIds_step {hub : RealtimeEventHub}
    (h : ∀ subscription ∈ hub.subscriptions, subscription.subscriptionId < hub.nextId)
    (call : HubCall) :
    ∀ subscription ∈ (hub.step settings.hub call).subscriptions,
      subscription.subscriptionId < (hub.step settings.hub call).nextId := by
  cases call with
  | subscribe actorKey resources =>
      unfold RealtimeEventHub.step RealtimeEventHub.subscribe
      dsimp only
      split
      · exact h
      · intro subscription hmem
        rcases List.mem_append.mp hmem with hold | hnew
        · exact Nat.lt_succ_of_lt (h subscription hold)
        · rw [List.mem_singleton.mp hnew]
          exact Nat.lt_succ_self _
  | publish event =>
      intro changed hchanged
      obtain ⟨subscription, hmem, rfl⟩ := List.mem_map.mp hchanged
      rw [receive_subscriptionId]
      exact h subscription hmem
  | get id => exact hubIds_change h id get_subscriptionId
  | close id => exact hubIds_change h id fun _ => rfl

/-! ## The stream -/

/-- What the stream's subscription has been given: every unexpired requested event between the
dispatcher's cursors then and now, and nothing twice. -/
structure Followed (settings : StreamSettings) (s : Realtime) (stream : EventStream)
    (subscription : RealtimeSubscription) : Prop where
  found : s.subscription stream = some subscription
  resources : subscription.resources = stream.resources
  sound : subscription.Sound
  isOpen : stream.phase ≠ .closed → subscription.closed = false
  le : stream.subscribedAt ≤ s.dispatch.lastCursor
  at_ : AtLogged s.dispatch.committed stream.subscribedAt
  increasing : subscription.published.Pairwise fun a b => a.eventId < b.eventId
  published : ∀ event ∈ subscription.published, event.eventId ≤ s.dispatch.lastCursor ∧
    event ∈ requestedEvents settings s.dispatch.committed stream.resources
  settled : stream.phase ≠ .closed → ∀ row ∈ s.dispatch.committed,
    stream.resources.contains (settings.resourceOf row.id) = true →
      s.dispatch.now < row.expiresAt → stream.subscribedAt < row.id →
        row.id ≤ s.dispatch.lastCursor → settings.envelope row ∈ subscription.published

/-- What is known once the bounds are read: the requested events above the cursor are there to
be read, and those above the max are published for the subscription. -/
structure Reading (settings : StreamSettings) (committed : List LogRow) (now : Nat)
    (stream : EventStream) (cursor maxCursor : Nat) : Prop where
  alive : ∀ row ∈ committed, stream.resources.contains (settings.resourceOf row.id) = true →
    cursor < row.id → now < row.expiresAt
  early : ∀ row ∈ committed, stream.resources.contains (settings.resourceOf row.id) = true →
    cursor < row.id → row.id ≤ maxCursor ∨ stream.subscribedAt < row.id
  max : AtLogged committed maxCursor

/-- Nothing has been yielded yet. -/
structure Unread (stream : EventStream) (subscription : RealtimeSubscription) : Prop where
  yielded : stream.yielded = []
  lastCursor : stream.lastCursor = stream.initialCursor.getD 0
  received : subscription.received = []

/-- The stream is past the snapshot, and has processed these items of its queue. -/
structure Live (settings : StreamSettings) (committed : List LogRow) (now : Nat)
    (stream : EventStream) (items : List RealtimeEventEnvelope) : Prop where
  lastCursor : stream.lastCursor = stream.lastYielded
  items : ∀ event ∈ items, event.eventId ≤ stream.lastCursor
  replayed : ∃ maxCursor, Reading settings committed now stream stream.since maxCursor ∧
    ∀ event ∈ requestedEvents settings committed stream.resources,
      stream.since < event.eventId → event.eventId ≤ maxCursor →
        event.eventId ≤ stream.lastCursor

/-- The snapshot's events, as far as the limit goes. -/
def snapshotEvents (settings : StreamSettings) (committed : List LogRow) (stream : EventStream)
    (cursor maxCursor : Nat) : List RealtimeEventEnvelope :=
  (stretch RealtimeEventEnvelope.eventId (requestedEvents settings committed stream.resources)
    cursor maxCursor).take (max 1 (settings.dispatch.replayLimit + 1)).toNat

/-- What holds of the stream in its phase. -/
def InPhase (settings : StreamSettings) (committed : List LogRow) (now : Nat)
    (stream : EventStream) (subscription : RealtimeSubscription) : Prop :=
  match stream.phase with
  | .subscribed => Unread stream subscription
  | .bounded minCursor maxCursor =>
      Unread stream subscription ∧
        (EventStream.cursorExpired ⟨minCursor, maxCursor, []⟩
            (stream.initialCursor.getD maxCursor) = true ∨
          Reading settings committed now stream (stream.initialCursor.getD maxCursor) maxCursor)
  | .loaded snapshot =>
      Unread stream subscription ∧
        (EventStream.cursorExpired snapshot
            (stream.initialCursor.getD snapshot.maxCursor) = true ∨
          Reading settings committed now stream
              (stream.initialCursor.getD snapshot.maxCursor) snapshot.maxCursor ∧
            ∀ cursor, stream.initialCursor = some cursor →
              snapshot.events = snapshotEvents settings committed stream cursor snapshot.maxCursor)
  | .replaying events =>
      stream.lastCursor = stream.lastYielded ∧ subscription.received = [] ∧
        ∃ maxCursor, Reading settings committed now stream stream.since maxCursor ∧
          stretch RealtimeEventEnvelope.eventId
              (requestedEvents settings committed stream.resources) stream.since maxCursor =
            stream.domainEvents ++ events
  | .live =>
      ∃ items, subscription.received = items.map .item ∧
        Live settings committed now stream items
  | .holding event =>
      ∃ items, subscription.received = (items ++ [event]).map .item ∧
        Live settings committed now stream items ∧ stream.lastCursor < event.eventId
  | .closed => True

/-- The invariant of a run. -/
structure Joining (settings : StreamSettings) (s : Realtime) : Prop where
  ordered : Ordered s
  stream : ∀ stream, s.stream = some stream →
    stream.Exact settings s.dispatch.committed ∧
      ∃ subscription, Followed settings s stream subscription ∧
        InPhase settings s.dispatch.committed s.dispatch.now stream subscription

/-! ## The log grows -/

section
variable {s s' : Realtime} {more : List LogRow} {stream : EventStream}
  {subscription : RealtimeSubscription}

theorem domainEvents_pairwise {committed : List LogRow}
    (hsorted : committed.Pairwise fun a b => a.id < b.id)
    (h : stream.Exact settings committed) :
    stream.domainEvents.Pairwise fun a b => a.eventId < b.eventId := by
  rw [h]
  exact stretch_pairwise (requestedEvents_pairwise hsorted _)

theorem since_le_lastYielded {committed : List LogRow} (h : stream.Exact settings committed) :
    stream.since ≤ stream.lastYielded := by
  by_contra hlt
  have hnil : stream.domainEvents = [] := by
    rw [h]
    exact stretch_eq_nil (Nat.le_of_not_le hlt)
  apply hlt
  unfold EventStream.lastYielded
  rw [hnil]
  exact le_refl _

/-- The last event yielded is in the log. -/
theorem lastYielded_logged {committed : List LogRow} (h : stream.Exact settings committed) :
    AtLogged committed stream.lastYielded ∨ stream.lastYielded ≤ stream.since := by
  cases hlast : stream.domainEvents.getLast? with
  | none =>
      right
      unfold EventStream.lastYielded
      rw [hlast]
      exact le_refl _
  | some event =>
      left
      have hmem := List.mem_of_getLast? hlast
      rw [h] at hmem
      obtain ⟨row, hrow, -, rfl⟩ := mem_requestedEvents.mp (mem_stretch.mp hmem).1
      refine .inr ⟨row, hrow, ?_⟩
      unfold EventStream.lastYielded
      rw [hlast]
      rfl

theorem exact_grows (h : stream.Exact settings s.dispatch.committed)
    (hgrows : Grows s s' more) : stream.Exact settings s'.dispatch.committed := by
  unfold EventStream.Exact at h ⊢
  rw [hgrows.committed, stretch_requested_append (lastYielded_logged h) hgrows.sorted]
  exact h

/-- No event expires with this step. -/
def KeepsAlive (s s' : Realtime) : Prop :=
  ∀ row ∈ s'.dispatch.committed, row.expiresAt ≤ s'.dispatch.now →
    row ∈ s.dispatch.committed ∧ row.expiresAt ≤ s.dispatch.now

theorem Reading.grows {cursor maxCursor : Nat}
    (h : Reading settings s.dispatch.committed s.dispatch.now stream cursor maxCursor)
    (hgrows : Grows s s' more) (halive : KeepsAlive s s')
    (hat : AtLogged s.dispatch.committed stream.subscribedAt) :
    Reading settings s'.dispatch.committed s'.dispatch.now stream cursor maxCursor := by
  refine ⟨?_, ?_, hgrows.committed ▸ h.max.append⟩
  · intro row hrow hresource hcursor
    by_contra hexpired
    obtain ⟨hold, hwas⟩ := halive row hrow (not_lt.mp hexpired)
    exact absurd hwas (not_le.mpr (h.alive row hold hresource hcursor))
  · intro row hrow hresource hcursor
    rw [hgrows.committed] at hrow
    rcases List.mem_append.mp hrow with hold | hnew
    · exact h.early row hold hresource hcursor
    · exact .inr (hat.lt hgrows.sorted hnew hcursor)

theorem Live.grows {items : List RealtimeEventEnvelope}
    (h : Live settings s.dispatch.committed s.dispatch.now stream items)
    (hgrows : Grows s s' more) (halive : KeepsAlive s s')
    (hat : AtLogged s.dispatch.committed stream.subscribedAt) :
    Live settings s'.dispatch.committed s'.dispatch.now stream items := by
  obtain ⟨maxCursor, hreading, hreplayed⟩ := h.replayed
  refine ⟨h.lastCursor, h.items, maxCursor, hreading.grows hgrows halive hat, ?_⟩
  intro event hevent hsince hmax
  obtain ⟨row, hrow, hresource, rfl⟩ := mem_requestedEvents.mp hevent
  rw [hgrows.committed] at hrow
  rcases List.mem_append.mp hrow with hold | hnew
  · exact hreplayed _ (mem_requestedEvents.mpr ⟨row, hold, hresource, rfl⟩) hsince hmax
  · exact absurd hmax (Nat.not_le_of_lt (hreading.max.lt hgrows.sorted hnew hsince))

theorem InPhase.grows
    (h : InPhase settings s.dispatch.committed s.dispatch.now stream subscription)
    (hgrows : Grows s s' more) (halive : KeepsAlive s s')
    (hat : AtLogged s.dispatch.committed stream.subscribedAt) :
    InPhase settings s'.dispatch.committed s'.dispatch.now stream subscription := by
  unfold InPhase at h ⊢
  cases hphase : stream.phase with
  | subscribed =>
      rw [hphase] at h
      exact h
  | bounded minCursor maxCursor =>
      rw [hphase] at h
      exact ⟨h.1, h.2.imp_right fun hreading => hreading.grows hgrows halive hat⟩
  | loaded snapshot =>
      rw [hphase] at h
      refine ⟨h.1, h.2.imp_right fun hloaded => ?_⟩
      refine ⟨hloaded.1.grows hgrows halive hat, fun cursor hcursor => ?_⟩
      rw [hloaded.2 cursor hcursor]
      unfold snapshotEvents
      rw [hgrows.committed, stretch_requested_append (.inl hloaded.1.max) hgrows.sorted]
  | replaying events =>
      rw [hphase] at h
      obtain ⟨hlast, hreceived, maxCursor, hreading, hstretch⟩ := h
      refine ⟨hlast, hreceived, maxCursor, hreading.grows hgrows halive hat, ?_⟩
      rw [hgrows.committed, stretch_requested_append (.inl hreading.max) hgrows.sorted]
      exact hstretch
  | live =>
      rw [hphase] at h
      obtain ⟨items, hreceived, hlive⟩ := h
      exact ⟨items, hreceived, hlive.grows hgrows halive hat⟩
  | holding event =>
      rw [hphase] at h
      obtain ⟨items, hreceived, hlive, hevent⟩ := h
      exact ⟨items, hreceived, hlive.grows hgrows halive hat, hevent⟩
  | closed => exact trivial

theorem Followed.grows (h : Followed settings s stream subscription)
    (hgrows : Grows s s' more) (hcursor : AtLogged s.dispatch.committed s.dispatch.lastCursor) :
    Followed settings s' stream subscription := by
  refine ⟨?_, h.resources, h.sound, h.isOpen, ?_, ?_, h.increasing, ?_, ?_⟩
  · have hfound := h.found
    unfold Realtime.subscription at hfound ⊢
    rw [hgrows.hub]
    exact hfound
  · rw [hgrows.cursor]
    exact h.le
  · rw [hgrows.committed]
    exact h.at_.append
  · intro event hevent
    obtain ⟨hle, hrequested⟩ := h.published event hevent
    rw [hgrows.cursor, hgrows.committed]
    obtain ⟨row, hrow, hresource, heq⟩ := mem_requestedEvents.mp hrequested
    exact ⟨hle, mem_requestedEvents.mpr ⟨row, List.mem_append_left _ hrow, hresource, heq⟩⟩
  · intro hopen row hrow hresource hlive hafter hle
    rw [hgrows.committed] at hrow
    rw [hgrows.cursor] at hle
    rcases List.mem_append.mp hrow with hold | hnew
    · exact h.settled hopen row hold hresource (lt_of_le_of_lt hgrows.now hlive) hafter hle
    · exact absurd hle (Nat.not_le_of_lt (hcursor.lt hgrows.sorted hnew hafter))

theorem Joining.grows (h : Joining settings s) (hgrows : Grows s s' more)
    (halive : s.stream.isSome → KeepsAlive s s') : Joining settings s' := by
  refine ⟨h.ordered.grows hgrows, fun stream hstream => ?_⟩
  rw [hgrows.stream] at hstream
  obtain ⟨hexact, subscription, hfollowed, hphase⟩ := h.stream stream hstream
  have hkeeps := halive (by rw [hstream]; rfl)
  exact ⟨exact_grows hexact hgrows, subscription, hfollowed.grows hgrows h.ordered.cursor,
    hphase.grows hgrows hkeeps hfollowed.at_⟩

/-! ## The dispatcher and the other sessions -/

theorem Joining.load (h : Joining settings s) : Joining settings (s.load settings) := by
  refine ⟨h.ordered.load, fun stream hstream => ?_⟩
  have hsame : (s.load settings).dispatch = s.dispatch ∧ (s.load settings).hub = s.hub ∧
      (s.load settings).stream = s.stream := by
    unfold Realtime.load
    split <;> exact ⟨rfl, rfl, rfl⟩
  rw [hsame.2.2] at hstream
  obtain ⟨hexact, subscription, hfollowed, hphase⟩ := h.stream stream hstream
  rw [hsame.1]
  refine ⟨hexact, subscription, ?_, hphase⟩
  obtain ⟨hfound, hresources, hsound, hopen, hle, hat, hincreasing, hpublished, hsettled⟩ := hfollowed
  refine ⟨?_, hresources, hsound, hopen, ?_, ?_, hincreasing, ?_, ?_⟩
  · unfold Realtime.subscription at hfound ⊢
    rw [hsame.2.1]
    exact hfound
  all_goals rw [hsame.1]; assumption

theorem receive_received (size : Nat) (event : RealtimeEventEnvelope) :
    (subscription.receive size event).received = subscription.received ∧
      (subscription.receive size event).closed = subscription.closed ∧
      (subscription.receive size event).resources = subscription.resources := by
  unfold RealtimeSubscription.receive
  split <;> exact ⟨rfl, rfl, rfl⟩

/-- The phase depends on the subscription by what it has received. -/
theorem InPhase.of_received {committed : List LogRow} {now : Nat}
    {subscription' : RealtimeSubscription}
    (h : InPhase settings committed now stream subscription)
    (hreceived : subscription'.received = subscription.received) :
    InPhase settings committed now stream subscription' := by
  unfold InPhase at h ⊢
  cases hphase : stream.phase with
  | subscribed =>
      rw [hphase] at h
      exact ⟨h.1, h.2, hreceived.trans h.3⟩
  | bounded minCursor maxCursor =>
      rw [hphase] at h
      exact ⟨⟨h.1.1, h.1.2, hreceived.trans h.1.3⟩, h.2⟩
  | loaded snapshot =>
      rw [hphase] at h
      exact ⟨⟨h.1.1, h.1.2, hreceived.trans h.1.3⟩, h.2⟩
  | replaying events =>
      rw [hphase] at h
      exact ⟨h.1, hreceived.trans h.2.1, h.2.2⟩
  | live =>
      rw [hphase] at h
      obtain ⟨items, hitems, hlive⟩ := h
      exact ⟨items, hreceived.trans hitems, hlive⟩
  | holding event =>
      rw [hphase] at h
      obtain ⟨items, hitems, hlive⟩ := h
      exact ⟨items, hreceived.trans hitems, hlive⟩
  | closed => exact trivial

theorem Ordered.publish (h : Ordered s) : Ordered (s.publish settings) := by
  unfold Realtime.publish
  cases hpage : s.page with
  | nil => exact h
  | cons row rest =>
      have hrow : row ∈ s.page := hpage ▸ List.mem_cons_self
      have hrest : ∀ later ∈ rest, later ∈ s.page :=
        fun later hlater => hpage ▸ List.mem_cons_of_mem _ hlater
      have hsorted := h.page
      rw [hpage, List.pairwise_cons] at hsorted
      dsimp only
      split
      · rename_i hskip
        refine ⟨h.committed, h.cursor, hsorted.2, fun later hlater => h.pageRows later (hrest later hlater),
          ?_, h.hubIds⟩
        intro last hlast other hother hlive hlt hle
        have hin := h.pageFull last (hrest last hlast) other hother hlive hlt hle
        rw [hpage] at hin
        rcases List.mem_cons.mp hin with rfl | hin
        · exact absurd hskip (not_le.mpr hlt)
        · exact hin
      · rename_i hnew
        have hnew : s.dispatch.lastCursor < row.id := not_le.mp hnew
        refine ⟨h.committed, .inr ⟨row, h.pageRows row hrow, rfl⟩, hsorted.2,
          fun later hlater => h.pageRows later (hrest later hlater), ?_, hubIds_step h.hubIds _⟩
        intro last hlast other hother hlive hlt hle
        have hin := h.pageFull last (hrest last hlast) other hother hlive (hnew.trans hlt) hle
        rw [hpage] at hin
        rcases List.mem_cons.mp hin with rfl | hin
        · exact absurd hlt (lt_irrefl _)
        · exact hin

/-- The next event of the page reaches the subscription, if it is for it. -/
theorem Followed.publish (hordered : Ordered s) {row : LogRow} {rest : List LogRow}
    (hpage : s.page = row :: rest) (hnew : s.dispatch.lastCursor < row.id)
    (h : Followed settings s stream subscription) :
    Followed settings
      { s with
        page := rest
        dispatch :=
          { s.dispatch with lastCursor := row.id, published := s.dispatch.published ++ [row] }
        hub := s.hub.step settings.hub (.publish (settings.envelope row)) }
      stream
      (subscription.receive settings.hub.realtimeSubscriberQueueSize (settings.envelope row)) := by
  have hrow : row ∈ s.page := hpage ▸ List.mem_cons_self
  obtain ⟨hreceived, hclosed, hresources⟩ := @receive_received subscription
    settings.hub.realtimeSubscriberQueueSize (settings.envelope row)
  have hold : ∀ event ∈ subscription.published, event ∈ (subscription.receive
      settings.hub.realtimeSubscriberQueueSize (settings.envelope row)).published := by
    intro event hevent
    unfold RealtimeSubscription.receive
    split
    · exact hevent
    · exact List.mem_append_left _ hevent
  refine ⟨?_, hresources.trans h.resources, h.sound.receive _ _, ?_, h.le.trans hnew.le, h.at_,
    ?_, ?_, ?_⟩
  · have hfound := h.found
    unfold Realtime.subscription at hfound ⊢
    rw [find_publish, hfound]
    rfl
  · rw [hclosed]
    exact h.isOpen
  · unfold RealtimeSubscription.receive
    split
    · exact h.increasing
    · refine List.pairwise_append.mpr ⟨h.increasing, List.pairwise_singleton _ _, ?_⟩
      intro event hevent last hlast
      rw [List.mem_singleton.mp hlast]
      exact lt_of_le_of_lt (h.published event hevent).1 hnew
  · intro event hevent
    unfold RealtimeSubscription.receive at hevent
    split at hevent
    · obtain ⟨hle, hrequested⟩ := h.published event hevent
      exact ⟨hle.trans hnew.le, hrequested⟩
    · rename_i hskips
      rcases List.mem_append.mp hevent with hevent | hlast
      · obtain ⟨hle, hrequested⟩ := h.published event hevent
        exact ⟨hle.trans hnew.le, hrequested⟩
      · rw [List.mem_singleton.mp hlast]
        refine ⟨le_refl _, mem_requestedEvents.mpr ⟨row, hordered.pageRows row hrow, ?_, rfl⟩⟩
        unfold RealtimeSubscription.skips at hskips
        rw [h.resources] at hskips
        have hmem : (settings.envelope row).resource ∈ stream.resources :=
          (by simpa using hskips : _ ∧ _).2
        exact List.contains_iff_mem.mpr hmem
  · intro hopen other hother hresource hlive hafter hle
    rcases Nat.lt_or_ge s.dispatch.lastCursor other.id with habove | hbelow
    · have hin := hordered.pageFull row hrow other hother hlive habove hle
      have hsorted := hordered.page
      rw [hpage] at hin hsorted
      rw [List.pairwise_cons] at hsorted
      have hsame : other = row := by
        rcases List.mem_cons.mp hin with heq | hin
        · exact heq
        · exact absurd hle (not_le.mpr (hsorted.1 other hin))
      subst hsame
      unfold RealtimeSubscription.receive
      split
      · rename_i hskips
        unfold RealtimeSubscription.skips at hskips
        rw [h.isOpen hopen, h.resources, Bool.false_or] at hskips
        have hcontains : stream.resources.contains (settings.envelope other).resource = true :=
          hresource
        rw [hcontains] at hskips
        exact nomatch hskips
      · exact List.mem_append_right _ (List.mem_singleton_self _)
    · exact hold _ (h.settled hopen other hother hresource hlive hafter hbelow)

theorem Joining.publish (h : Joining settings s) : Joining settings (s.publish settings) := by
  refine ⟨h.ordered.publish, fun stream hstream => ?_⟩
  unfold Realtime.publish at hstream ⊢
  cases hpage : s.page with
  | nil =>
      rw [hpage] at hstream
      exact h.stream stream hstream
  | cons row rest =>
      rw [hpage] at hstream
      dsimp only at hstream ⊢
      split at hstream
      · rename_i hskip
        rw [if_pos hskip]
        obtain ⟨hexact, subscription, hfollowed, hphase⟩ := h.stream stream hstream
        refine ⟨hexact, subscription, ?_, hphase⟩
        exact ⟨hfollowed.found, hfollowed.resources, hfollowed.sound, hfollowed.isOpen, hfollowed.le,
          hfollowed.at_, hfollowed.increasing, hfollowed.published, hfollowed.settled⟩
      · rename_i hnew
        rw [if_neg hnew]
        obtain ⟨hexact, subscription, hfollowed, hphase⟩ := h.stream stream hstream
        exact ⟨hexact, _, hfollowed.publish h.ordered hpage (not_le.mp hnew),
          hphase.of_received (receive_received _ _).1⟩

/-- Whatever leaves the log, the streams and this subscription alone. -/
theorem Joining.of_hub (h : Joining settings s) {hub : RealtimeEventHub}
    (hids : ∀ subscription ∈ hub.subscriptions, subscription.subscriptionId < hub.nextId)
    (hfind : ∀ stream, s.stream = some stream → ∀ subscription,
      s.subscription stream = some subscription →
        ({ s with hub := hub } : Realtime).subscription stream = some subscription) :
    Joining settings { s with hub := hub } := by
  refine ⟨⟨h.ordered.committed, h.ordered.cursor, h.ordered.page, h.ordered.pageRows,
    h.ordered.pageFull, hids⟩, fun stream hstream => ?_⟩
  obtain ⟨hexact, subscription, hfollowed, hphase⟩ := h.stream stream hstream
  refine ⟨hexact, subscription, ?_, hphase⟩
  exact ⟨hfind stream hstream subscription hfollowed.found, hfollowed.resources, hfollowed.sound,
    hfollowed.isOpen, hfollowed.le, hfollowed.at_, hfollowed.increasing, hfollowed.published,
    hfollowed.settled⟩

theorem Joining.otherCall (h : Joining settings s) (call : HubCall) :
    Joining settings (s.otherCall settings call) := by
  unfold Realtime.otherCall
  have hids := @hubIds_step settings s.hub h.ordered.hubIds call
  have hapart : ∀ {id : Nat}, ¬ s.stream.map EventStream.subscriptionId = some id →
      ∀ stream, s.stream = some stream → id ≠ stream.subscriptionId := by
    rintro _ hother stream hstream rfl
    exact hother (by rw [hstream]; rfl)
  cases call with
  | publish event => exact h
  | subscribe actorKey resources =>
      exact h.of_hub hids fun stream _ subscription hfound =>
        find_subscribe s.hub hfound actorKey resources
  | get id =>
      dsimp only
      split
      · exact h
      · rename_i hother
        exact h.of_hub hids fun stream hstream subscription hfound =>
          (find_change_other s.hub (hapart hother stream hstream) get_subscriptionId).trans hfound
  | close id =>
      dsimp only
      split
      · exact h
      · rename_i hother
        exact h.of_hub hids fun stream hstream subscription hfound =>
          (@find_change_other s.hub _ _ (hapart hother stream hstream)
            (fun subscription => { subscription with closed := true }) fun _ => rfl).trans hfound

/-! ## The steps of the stream -/

theorem Joining.openStream (h : Joining settings s) (cursor : Option Nat)
    (actorKey dashboardId : String) (datasetIds : List String) :
    Joining settings (s.openStream settings cursor actorKey dashboardId datasetIds) := by
  unfold Realtime.openStream
  dsimp only
  split
  · exact h
  · rename_i hopened
    rw [not_or] at hopened
    have hhub : s.hub.subscribe settings.hub actorKey (streamResources dashboardId datasetIds) =
        { nextId := s.hub.nextId + 1
          subscriptions := s.hub.subscriptions ++
            [⟨s.hub.nextId, actorKey, streamResources dashboardId datasetIds, [], false, [], []⟩] } := by
      have hnew := hopened.2
      unfold RealtimeEventHub.subscribe at hnew ⊢
      split
      · rename_i hlimit
        rw [if_pos hlimit] at hnew
        exact absurd rfl hnew
      · rfl
    have hfresh : s.hub.subscriptions.find? (fun subscription =>
        subscription.subscriptionId = s.hub.nextId) = none := by
      rw [List.find?_eq_none]
      intro subscription hmem
      have := h.ordered.hubIds subscription hmem
      simp only [decide_eq_true_eq]
      omega
    have hids := @hubIds_step settings s.hub h.ordered.hubIds
      (.subscribe actorKey (streamResources dashboardId datasetIds))
    refine ⟨⟨h.ordered.committed, h.ordered.cursor, h.ordered.page, h.ordered.pageRows,
      h.ordered.pageFull, hids⟩, fun stream hstream => ?_⟩
    cases hstream
    refine ⟨(stretch_eq_nil (le_refl _)).symm,
      ⟨s.hub.nextId, actorKey, streamResources dashboardId datasetIds, [], false, [], []⟩,
      ⟨?_, rfl, Told.nil, fun _ => rfl, le_refl _, h.ordered.cursor, .nil,
        fun _ hevent => (nomatch hevent), ?_⟩, rfl, rfl, rfl⟩
    · unfold Realtime.subscription
      rw [hhub, List.find?_append, hfresh]
      simp
    · intro _ row _ _ _ hafter hle
      exact absurd hle (not_le.mpr hafter)

/-- The same subscription is read. -/
structure SameReader (stream stream' : EventStream) : Prop where
  subscriptionId : stream'.subscriptionId = stream.subscriptionId
  resources : stream'.resources = stream.resources
  initialCursor : stream'.initialCursor = stream.initialCursor
  subscribedAt : stream'.subscribedAt = stream.subscribedAt

variable {stream' : EventStream}

theorem Reading.of_same {committed : List LogRow} {now cursor maxCursor : Nat}
    (h : Reading settings committed now stream cursor maxCursor)
    (hsame : SameReader stream stream') :
    Reading settings committed now stream' cursor maxCursor := by
  refine ⟨?_, ?_, h.max⟩
  · rw [hsame.resources]
    exact h.alive
  · rw [hsame.resources, hsame.subscribedAt]
    exact h.early

theorem Followed.of_same (h : Followed settings s stream subscription)
    (hsame : SameReader stream stream') (hopen : stream.phase ≠ .closed) :
    Followed settings (s.withStream stream') stream' subscription := by
  obtain ⟨hfound, hresources, hsound, hisOpen, hle, hat, hincreasing, hpublished, hsettled⟩ := h
  refine ⟨?_, ?_, hsound, fun _ => hisOpen hopen, ?_, ?_, hincreasing, ?_, ?_⟩
  · unfold Realtime.subscription at hfound ⊢
    rw [hsame.subscriptionId]
    exact hfound
  · rw [hsame.resources]
    exact hresources
  · rw [hsame.subscribedAt]
    exact hle
  · rw [hsame.subscribedAt]
    exact hat
  · rw [hsame.resources]
    exact hpublished
  · rw [hsame.resources, hsame.subscribedAt]
    exact fun _ => hsettled hopen

theorem Ordered.withStream (h : Ordered s) (hfollowed : Followed settings s stream subscription)
    (hsame : SameReader stream stream') (hopen : stream.phase ≠ .closed)
    (hexact : stream'.Exact settings s.dispatch.committed)
    (hphase : InPhase settings s.dispatch.committed s.dispatch.now stream' subscription) :
    Joining settings (s.withStream stream') := by
  refine ⟨⟨h.committed, h.cursor, h.page, h.pageRows,
    h.pageFull, h.hubIds⟩, fun other hother => ?_⟩
  cases hother
  exact ⟨hexact, subscription, hfollowed.of_same hsame hopen, hphase⟩

theorem Ordered.finish (h : Ordered s) (hfollowed : Followed settings s stream subscription)
    (hsame : SameReader stream stream') (hexact : stream'.Exact settings s.dispatch.committed) :
    Joining settings (s.finish settings stream') := by
  have hid : ∀ other : RealtimeSubscription,
      ({ other with closed := true } : RealtimeSubscription).subscriptionId =
        other.subscriptionId := fun _ => rfl
  refine ⟨⟨h.committed, h.cursor, h.page, h.pageRows,
    h.pageFull, hubIds_step h.hubIds _⟩, fun other hother => ?_⟩
  cases hother
  refine ⟨hexact, { subscription with closed := true }, ?_, trivial⟩
  refine ⟨?_, ?_, hfollowed.sound, fun hopen => absurd rfl hopen, ?_, ?_, hfollowed.increasing, ?_,
    fun hopen => absurd rfl hopen⟩
  · have hfound := hfollowed.found
    unfold Realtime.subscription at hfound ⊢
    have hself := find_change_self s.hub stream.subscriptionId hid
    rw [hfound] at hself
    show (s.hub.change stream'.subscriptionId _).subscriptions.find?
      (fun other => other.subscriptionId = stream'.subscriptionId) = _
    rw [hsame.subscriptionId]
    exact hself
  · show subscription.resources = stream'.resources
    rw [hsame.resources]
    exact hfollowed.resources
  · show stream'.subscribedAt ≤ _
    rw [hsame.subscribedAt]
    exact hfollowed.le
  · show AtLogged _ stream'.subscribedAt
    rw [hsame.subscribedAt]
    exact hfollowed.at_
  · show ∀ event ∈ subscription.published, _ ∧ event ∈ requestedEvents _ _ stream'.resources
    rw [hsame.resources]
    exact hfollowed.published

/-! ## What is yielded -/

/-- An item that is no event and no announcement. -/
def Control : StreamItem → Prop
  | .ready _ => False
  | .domain _ => False
  | _ => True

theorem domainEvents_yields_control {item : StreamItem} (h : Control item) :
    (stream.yields item).domainEvents = stream.domainEvents := by
  cases item with
  | ready cursor => exact h.elim
  | domain event => exact h.elim
  | resyncRequired reason => simp [EventStream.domainEvents, EventStream.yields]
  | authorizationChanged => simp [EventStream.domainEvents, EventStream.yields]
  | heartbeat cursor => simp [EventStream.domainEvents, EventStream.yields]

theorem since_yields {item : StreamItem} (h : ∀ cursor, item ≠ .ready cursor) :
    (stream.yields item).since = stream.since := by
  have hnone : [item].findSome? (fun
      | StreamItem.ready currentCursor => some currentCursor
      | _ => none) = none := by
    cases item with
    | ready cursor => exact absurd rfl (h cursor)
    | domain event => rfl
    | resyncRequired reason => rfl
    | authorizationChanged => rfl
    | heartbeat cursor => rfl
  unfold EventStream.since EventStream.announced EventStream.yields
  dsimp only
  rw [List.findSome?_append, hnone, Option.or_none]

theorem exact_of_same {committed : List LogRow} (h : stream.Exact settings committed)
    (hresources : stream'.resources = stream.resources) (hsince : stream'.since = stream.since)
    (hdomain : stream'.domainEvents = stream.domainEvents) :
    stream'.Exact settings committed := by
  unfold EventStream.Exact EventStream.lastYielded at h ⊢
  rw [hdomain, hsince, hresources]
  exact h

theorem exact_control {committed : List LogRow} {item : StreamItem}
    (h : stream.Exact settings committed) (hitem : Control item) :
    (stream.yields item).Exact settings committed := by
  refine exact_of_same h rfl (since_yields ?_) (domainEvents_yields_control hitem)
  rintro cursor rfl
  exact hitem

theorem exact_nil {committed : List LogRow} (h : stream.domainEvents = []) :
    stream.Exact settings committed := by
  unfold EventStream.Exact EventStream.lastYielded
  rw [h]
  exact (stretch_eq_nil (le_refl _)).symm

theorem domainEvents_yieldsDomain (event : RealtimeEventEnvelope) :
    (stream.yieldsDomain event).domainEvents = stream.domainEvents ++ [event] := by
  simp [EventStream.domainEvents, EventStream.yieldsDomain, EventStream.yields]

theorem since_yieldsDomain (event : RealtimeEventEnvelope) :
    (stream.yieldsDomain event).since = stream.since := by
  have := @since_yields stream (.domain event) fun _ h => nomatch h
  exact this

theorem lastYielded_yieldsDomain (event : RealtimeEventEnvelope) :
    (stream.yieldsDomain event).lastYielded = event.eventId := by
  unfold EventStream.lastYielded
  rw [domainEvents_yieldsDomain, List.getLast?_concat]
  rfl

theorem Ordered.unauthorized (h : Ordered s)
    (hfollowed : Followed settings s stream subscription)
    (hexact : stream.Exact settings s.dispatch.committed) :
    Joining settings (s.unauthorized settings stream) :=
  h.finish hfollowed ⟨rfl, rfl, rfl, rfl⟩ (exact_control hexact trivial)

/-! ## The snapshot -/

theorem Joining.readBounds (h : Joining settings s) (hstream : s.stream = some stream)
    (hphase : stream.phase = .subscribed) (hkept : CursorKept settings s .readBounds) :
    Joining settings (s.readBounds stream) := by
  obtain ⟨hexact, subscription, hfollowed, hin⟩ := h.stream stream hstream
  unfold InPhase at hin
  rw [hphase] at hin
  refine h.ordered.withStream hfollowed ⟨rfl, rfl, rfl, rfl⟩ (by rw [hphase]; exact nofun) hexact ?_
  refine ⟨⟨hin.yielded, hin.lastCursor, hin.received⟩, ?_⟩
  unfold CursorKept at hkept
  rw [hstream] at hkept
  refine (hkept hphase).imp_right fun halive => ?_
  refine ⟨halive, fun row hrow hresource hcursor => .inl ?_, atLogged_maxCursor _⟩
  have hvisible : row ∈ visible s.dispatch 0 :=
    mem_visible.mpr ⟨hrow, Nat.zero_lt_of_lt hcursor, halive row hrow hresource hcursor⟩
  exact (le_foldl_max_nat _ 0).2 row.id (List.mem_map_of_mem hvisible)

/-- The replay of a cursor whose events are all there. -/
theorem replay_eq (hsorted : s.dispatch.committed.Pairwise fun a b => a.id < b.id)
    {cursor maxCursor : Nat}
    (h : Reading settings s.dispatch.committed s.dispatch.now stream cursor maxCursor) :
    replay settings s.dispatch cursor stream.resources (settings.dispatch.replayLimit + 1)
        maxCursor =
      snapshotEvents settings s.dispatch.committed stream cursor maxCursor := by
  have horder : visibleInOrder s.dispatch cursor = visible s.dispatch cursor := by
    unfold visibleInOrder
    apply List.Pairwise.insertionSort_eq
    exact (hsorted.sublist List.filter_sublist).imp fun hlt => hlt.le
  unfold replay snapshotEvents stretch requestedEvents
  rw [horder, List.filter_map, List.map_take]
  congr 2
  unfold visible
  rw [List.filter_filter, List.filter_filter]
  apply List.filter_congr
  intro row hrow
  have hid : (settings.envelope row).eventId = row.id := rfl
  rw [Function.comp, hid]
  by_cases hresource : stream.resources.contains (settings.resourceOf row.id) = true
  · by_cases hcursor : cursor < row.id
    · have hlive := h.alive row hrow hresource hcursor
      simp only [hresource, hcursor, hlive, true_and, Bool.true_and, decide_true, Bool.and_true]
    · simp only [hresource, hcursor, false_and, decide_false, Bool.and_false, Bool.false_and]
  · simp only [Bool.not_eq_true] at hresource
    simp only [hresource, Bool.false_and, Bool.and_false]

theorem Joining.readReplay (h : Joining settings s) (hstream : s.stream = some stream)
    {minCursor maxCursor : Nat} (hphase : stream.phase = .bounded minCursor maxCursor) :
    Joining settings (s.readReplay settings stream minCursor maxCursor) := by
  obtain ⟨hexact, subscription, hfollowed, hin⟩ := h.stream stream hstream
  unfold InPhase at hin
  rw [hphase] at hin
  refine h.ordered.withStream hfollowed ⟨rfl, rfl, rfl, rfl⟩ (by rw [hphase]; exact nofun) hexact ?_
  refine ⟨⟨hin.1.yielded, hin.1.lastCursor, hin.1.received⟩, hin.2.imp id fun hreading => ?_⟩
  refine ⟨hreading.of_same ⟨rfl, rfl, rfl, rfl⟩, fun cursor hcursor => ?_⟩
  have hinitial : stream.initialCursor = some cursor := hcursor
  have hlast : stream.lastCursor = cursor := by
    rw [hin.1.lastCursor, hinitial]
    rfl
  rw [hinitial] at hreading
  dsimp only
  rw [hlast]
  exact replay_eq h.ordered.committed hreading

/-- A snapshot below the limit holds all its events. -/
theorem snapshotEvents_all {committed : List LogRow} {cursor maxCursor : Nat}
    (h : ¬ settings.dispatch.replayLimit <
      (snapshotEvents settings committed stream cursor maxCursor).length) :
    snapshotEvents settings committed stream cursor maxCursor =
      stretch RealtimeEventEnvelope.eventId (requestedEvents settings committed stream.resources)
        cursor maxCursor := by
  unfold snapshotEvents at h ⊢
  rw [List.length_take] at h
  apply List.take_of_length_le
  omega

theorem Joining.ready (h : Joining settings s) (hstream : s.stream = some stream)
    {snapshot : ReplaySnapshot} (hphase : stream.phase = .loaded snapshot) :
    Joining settings (s.ready settings stream snapshot) := by
  obtain ⟨hexact, subscription, hfollowed, hin⟩ := h.stream stream hstream
  unfold InPhase at hin
  rw [hphase] at hin
  obtain ⟨hunread, hloaded⟩ := hin
  have hcursor : (stream.initialCursor.elim snapshot.maxCursor fun _ => stream.lastCursor) =
      stream.initialCursor.getD snapshot.maxCursor := by
    cases hinitial : stream.initialCursor with
    | none => rfl
    | some cursor =>
        rw [hunread.lastCursor, hinitial]
        rfl
  unfold Realtime.ready
  dsimp only
  rw [hcursor]
  have hrefused : ∀ reason last,
      (EventStream.yields { stream.yields (.ready snapshot.maxCursor) with lastCursor := last }
        (.resyncRequired reason)).domainEvents = [] := by
    intro reason last
    simp [EventStream.domainEvents, EventStream.yields, hunread.yielded]
  split
  · exact h.ordered.finish hfollowed ⟨rfl, rfl, rfl, rfl⟩ (exact_nil (hrefused _ _))
  · rename_i hvalid
    obtain ⟨hreading, hevents⟩ := hloaded.resolve_left hvalid
    split
    · exact h.ordered.finish hfollowed ⟨rfl, rfl, rfl, rfl⟩ (exact_nil (hrefused _ _))
    · rename_i hlimit
      have hdomain : (EventStream.inPhase { stream.yields (.ready snapshot.maxCursor) with
          lastCursor := stream.initialCursor.getD snapshot.maxCursor } (.replaying
            (stream.initialCursor.elim [] fun _ => snapshot.events))).domainEvents = [] := by
        simp [EventStream.domainEvents, EventStream.yields, EventStream.inPhase, hunread.yielded]
      have hnow : (EventStream.inPhase { stream.yields (.ready snapshot.maxCursor) with
          lastCursor := stream.initialCursor.getD snapshot.maxCursor } (.replaying
            (stream.initialCursor.elim [] fun _ => snapshot.events))).since =
              stream.initialCursor.getD snapshot.maxCursor := by
        simp [EventStream.since, EventStream.announced, EventStream.yields, EventStream.inPhase,
          hunread.yielded]
      have hsame : SameReader stream (EventStream.inPhase
          { stream.yields (.ready snapshot.maxCursor) with
            lastCursor := stream.initialCursor.getD snapshot.maxCursor } (.replaying
              (stream.initialCursor.elim [] fun _ => snapshot.events))) := ⟨rfl, rfl, rfl, rfl⟩
      refine h.ordered.withStream hfollowed hsame (by rw [hphase]; exact nofun) (exact_nil hdomain) ?_
      refine ⟨?_, hunread.received, snapshot.maxCursor, ?_, ?_⟩
      · unfold EventStream.lastYielded
        rw [hdomain, hnow]
        rfl
      · rw [hnow]
        exact hreading.of_same hsame
      · rw [hdomain, hnow]
        dsimp only [EventStream.inPhase, EventStream.yields]
        cases hinitial : stream.initialCursor with
        | none => exact stretch_eq_nil (le_refl _)
        | some cursor =>
            have hall := hevents cursor hinitial
            rw [hinitial, Option.elim_some, hall] at hlimit
            rw [Option.elim_some, hall, snapshotEvents_all hlimit]
            rfl

/-! ## Replay and live delivery -/

/-- What is still to be replayed is above the last event yielded. -/
theorem lastYielded_lt {committed : List LogRow} {maxCursor : Nat}
    {event : RealtimeEventEnvelope} {rest : List RealtimeEventEnvelope}
    (hsorted : committed.Pairwise fun a b => a.id < b.id)
    (h : stretch RealtimeEventEnvelope.eventId
        (requestedEvents settings committed stream.resources) stream.since maxCursor =
      stream.domainEvents ++ event :: rest) : stream.lastYielded < event.eventId := by
  have hpairwise : (stretch RealtimeEventEnvelope.eventId (requestedEvents settings committed
      stream.resources) stream.since maxCursor).Pairwise fun a b => a.eventId < b.eventId :=
    stretch_pairwise (requestedEvents_pairwise hsorted _)
  rw [h] at hpairwise
  unfold EventStream.lastYielded
  cases hlast : stream.domainEvents.getLast? with
  | none =>
      have hmem : event ∈ stream.domainEvents ++ event :: rest :=
        List.mem_append_right _ List.mem_cons_self
      rw [← h] at hmem
      exact (mem_stretch.mp hmem).2.1
  | some last =>
      exact (List.pairwise_append.mp hpairwise).2.2 last (List.mem_of_getLast? hlast) event
        List.mem_cons_self

theorem Joining.replayNext (h : Joining settings s) (hstream : s.stream = some stream)
    (authorized : Bool) {events : List RealtimeEventEnvelope}
    (hphase : stream.phase = .replaying events) :
    Joining settings (s.replayNext settings stream authorized events) := by
  obtain ⟨hexact, subscription, hfollowed, hin⟩ := h.stream stream hstream
  have hopen : stream.phase ≠ .closed := by
    rw [hphase]
    exact nofun
  unfold InPhase at hin
  rw [hphase] at hin
  obtain ⟨hlast, hreceived, maxCursor, hreading, hstretch⟩ := hin
  cases events with
  | nil =>
      have hsame : SameReader stream (stream.inPhase .live) := ⟨rfl, rfl, rfl, rfl⟩
      refine h.ordered.withStream hfollowed hsame hopen hexact ⟨[], hreceived, hlast,
        fun _ hevent => (nomatch hevent), maxCursor, hreading.of_same hsame, ?_⟩
      intro event hevent hsince hmax
      have hmem : event ∈ stream.domainEvents := by
        have hin := mem_stretch.mpr ⟨hevent, hsince, hmax⟩
        rw [List.append_nil] at hstretch
        exact hstretch ▸ hin
      have hle := le_getLast (domainEvents_pairwise h.ordered.committed hexact) hmem stream.since
      exact hlast ▸ hle
  | cons event rest =>
      have hnext := lastYielded_lt h.ordered.committed hstretch
      unfold Realtime.replayNext
      dsimp only
      rw [if_neg (not_le.mpr (hlast ▸ hnext))]
      split
      · exact h.ordered.unauthorized hfollowed hexact
      · have hsame : SameReader stream ((stream.yieldsDomain event).inPhase (.replaying rest)) :=
          ⟨rfl, rfl, rfl, rfl⟩
        have hsince : ((stream.yieldsDomain event).inPhase (.replaying rest)).since =
            stream.since := @since_yieldsDomain stream event
        have hdomain : ((stream.yieldsDomain event).inPhase (.replaying rest)).domainEvents =
            stream.domainEvents ++ [event] := domainEvents_yieldsDomain event
        have hstretch' : stretch RealtimeEventEnvelope.eventId
            (requestedEvents settings s.dispatch.committed stream.resources) stream.since
              maxCursor = (stream.domainEvents ++ [event]) ++ rest := by
          rw [hstretch, List.append_assoc]
          rfl
        refine h.ordered.withStream hfollowed hsame hopen ?_ ⟨?_, hreceived, maxCursor, ?_, ?_⟩
        · unfold EventStream.Exact EventStream.lastYielded
          rw [hdomain, hsince]
          exact (stretch_of_read (requestedEvents_pairwise h.ordered.committed _)
            hstretch').symm
        · exact (lastYielded_yieldsDomain event).symm
        · rw [hsince]
          exact hreading.of_same hsame
        · rw [hdomain, hsince]
          exact hstretch'

theorem Followed.get (h : Followed settings s stream subscription) :
    Followed settings
      { s with hub := s.hub.step settings.hub (.get stream.subscriptionId) } stream
      subscription.get := by
  have hsame : subscription.get.published = subscription.published ∧
      subscription.get.closed = subscription.closed ∧
      subscription.get.resources = subscription.resources := by
    unfold RealtimeSubscription.get
    split <;> exact ⟨rfl, rfl, rfl⟩
  refine ⟨?_, hsame.2.2.trans h.resources, h.sound.get, ?_, h.le, h.at_, ?_, ?_, ?_⟩
  · have hfound := h.found
    unfold Realtime.subscription at hfound ⊢
    have hself := find_change_self s.hub stream.subscriptionId get_subscriptionId
    rw [hfound] at hself
    exact hself
  · rw [hsame.2.1]
    exact h.isOpen
  · rw [hsame.1]
    exact h.increasing
  · rw [hsame.1]
    exact h.published
  · rw [hsame.1]
    exact h.settled

theorem Ordered.get (h : Ordered s) (id : Nat) :
    Ordered { s with hub := s.hub.step settings.hub (.get id) } :=
  ⟨h.committed, h.cursor, h.page, h.pageRows, h.pageFull, hubIds_step h.hubIds _⟩

theorem Joining.take (h : Joining settings s) (hstream : s.stream = some stream)
    (hphase : stream.phase = .live) : Joining settings (s.take settings stream) := by
  obtain ⟨hexact, subscription, hfollowed, hin⟩ := h.stream stream hstream
  have hopen : stream.phase ≠ .closed := by
    rw [hphase]
    exact nofun
  have hordered := @Ordered.get settings s h.ordered stream.subscriptionId
  have hget := hfollowed.get
  unfold InPhase at hin
  rw [hphase] at hin
  obtain ⟨items, hreceived, hlive⟩ := hin
  unfold Realtime.take
  rw [hfollowed.found, Option.bind_some]
  cases hqueue : subscription.queue with
  | nil => exact h
  | cons item queue =>
      have hnow : subscription.get.received = items.map .item ++ [item] := by
        unfold RealtimeSubscription.get
        rw [hqueue]
        dsimp only
        rw [hreceived]
      cases item with
      | gap =>
          exact hordered.finish hget ⟨rfl, rfl, rfl, rfl⟩ (exact_control hexact trivial)
      | item event =>
          have hitems : subscription.get.received = (items ++ [event]).map .item := by
            rw [hnow, List.map_append]
            rfl
          dsimp only [List.head?_cons]
          split
          · rename_i hskip
            refine ⟨hordered, fun other hother => ?_⟩
            cases hstream.symm.trans hother
            refine ⟨hexact, subscription.get, hget, ?_⟩
            unfold InPhase
            rw [hphase]
            refine ⟨items ++ [event], hitems, hlive.lastCursor, ?_, hlive.replayed⟩
            intro other hother
            rcases List.mem_append.mp hother with hold | hnew
            · exact hlive.items other hold
            · rw [List.mem_singleton.mp hnew]
              exact hskip
          · rename_i hnew
            have hsame : SameReader stream (stream.inPhase (.holding event)) := ⟨rfl, rfl, rfl, rfl⟩
            obtain ⟨maxCursor, hreading, hreplayed⟩ := hlive.replayed
            exact hordered.withStream hget hsame hopen hexact
              ⟨items, hitems, ⟨hlive.lastCursor, hlive.items, maxCursor, hreading.of_same hsame,
                hreplayed⟩, not_le.mp hnew⟩

/-- Between the last event yielded and the one that is held there is no requested event. -/
theorem held_is_next (hfollowed : Followed settings s stream subscription) (hopen : stream.phase ≠ .closed) {items : List RealtimeEventEnvelope}
    {event : RealtimeEventEnvelope}
    (hreceived : subscription.received = (items ++ [event]).map .item)
    (hlive : Live settings s.dispatch.committed s.dispatch.now stream items)
    (hsince : stream.since ≤ stream.lastCursor) :
    event ∈ requestedEvents settings s.dispatch.committed stream.resources ∧
      ∀ other ∈ requestedEvents settings s.dispatch.committed stream.resources,
        stream.lastCursor < other.eventId → ¬ other.eventId < event.eventId := by
  have hsound := hfollowed.sound
  unfold RealtimeSubscription.Sound at hsound
  rw [hreceived] at hsound
  obtain ⟨more, hmore⟩ := hsound.items
  have hin : event ∈ subscription.published := by
    rw [hmore]
    simp
  refine ⟨(hfollowed.published event hin).2, fun other hother hafter hbefore => ?_⟩
  obtain ⟨maxCursor, hreading, hreplayed⟩ := hlive.replayed
  obtain ⟨row, hrow, hresource, rfl⟩ := mem_requestedEvents.mp hother
  have hcursor : stream.since < row.id := lt_of_le_of_lt hsince hafter
  -- the event was not replayed, so it is published for the subscription
  have hsubscribed : stream.subscribedAt < row.id := by
    rcases hreading.early row hrow hresource hcursor with hmax | hsubscribed
    · exact absurd (hreplayed _ hother hcursor hmax) (not_le.mpr hafter)
    · exact hsubscribed
  have hpublished := hfollowed.settled hopen row hrow hresource
    (hreading.alive row hrow hresource hcursor) hsubscribed
    (hbefore.le.trans (hfollowed.published event hin).1)
  -- and published before the one that is held
  have hincreasing := hfollowed.increasing
  rw [hmore] at hpublished hincreasing
  rcases List.mem_append.mp hpublished with hread | hlater
  · rcases List.mem_append.mp hread with hitem | hsame
    · exact absurd (hlive.items _ hitem) (not_le.mpr hafter)
    · rw [List.mem_singleton.mp hsame] at hbefore
      exact absurd hbefore (lt_irrefl _)
  · have habove := (List.pairwise_append.mp hincreasing).2.2 event
      (List.mem_append_right _ (List.mem_singleton_self _)) _ hlater
    exact absurd hbefore (not_lt.mpr habove.le)

theorem Joining.deliver (h : Joining settings s) (hstream : s.stream = some stream)
    (authorized : Bool) {event : RealtimeEventEnvelope} (hphase : stream.phase = .holding event) :
    Joining settings (s.deliver settings stream authorized event) := by
  obtain ⟨hexact, subscription, hfollowed, hin⟩ := h.stream stream hstream
  have hopen : stream.phase ≠ .closed := by
    rw [hphase]
    exact nofun
  unfold InPhase at hin
  rw [hphase] at hin
  obtain ⟨items, hreceived, hlive, hnew⟩ := hin
  unfold Realtime.deliver
  split
  · exact h.ordered.unauthorized hfollowed hexact
  · have hsame : SameReader stream ((stream.yieldsDomain event).inPhase .live) :=
      ⟨rfl, rfl, rfl, rfl⟩
    have hlow : stream.since ≤ stream.lastCursor := hlive.lastCursor ▸ since_le_lastYielded hexact
    have hsince : ((stream.yieldsDomain event).inPhase .live).since = stream.since :=
      @since_yieldsDomain stream event
    have hlast : ((stream.yieldsDomain event).inPhase .live).lastYielded = event.eventId :=
      lastYielded_yieldsDomain event
    obtain ⟨hrequested, hnext⟩ :=
      held_is_next hfollowed hopen hreceived hlive hlow
    obtain ⟨maxCursor, hreading, hreplayed⟩ := hlive.replayed
    refine h.ordered.withStream hfollowed hsame hopen ?_
      ⟨items ++ [event], hreceived, hlast.symm, ?_, maxCursor, ?_, ?_⟩
    · unfold EventStream.Exact at hexact ⊢
      rw [hsince, hlast]
      refine (domainEvents_yieldsDomain event).trans ?_
      rw [hexact, ← hlive.lastCursor]
      exact (stretch_next (requestedEvents_pairwise h.ordered.committed _) hrequested hlow hnew
        hnext).symm
    · intro other hother
      rcases List.mem_append.mp hother with hold | hheld
      · exact (hlive.items other hold).trans hnew.le
      · rw [List.mem_singleton.mp hheld]
        exact le_refl _
    · rw [hsince]
      exact hreading.of_same hsame
    · intro other hother hafter hmax
      rw [hsince] at hafter
      exact (hreplayed other hother hafter hmax).trans hnew.le

theorem Joining.beat (h : Joining settings s) (hstream : s.stream = some stream)
    (authorized : Bool) (hphase : stream.phase = .live) :
    Joining settings (s.beat settings stream authorized) := by
  obtain ⟨hexact, subscription, hfollowed, hin⟩ := h.stream stream hstream
  unfold Realtime.beat
  split
  · exact h.ordered.unauthorized hfollowed hexact
  · have hsame : SameReader stream (stream.yields (.heartbeat stream.lastCursor)) :=
      ⟨rfl, rfl, rfl, rfl⟩
    have hsince : (stream.yields (.heartbeat stream.lastCursor)).since = stream.since :=
      since_yields fun _ heq => nomatch heq
    have hdomain : (stream.yields (.heartbeat stream.lastCursor)).domainEvents =
        stream.domainEvents := domainEvents_yields_control trivial
    refine h.ordered.withStream hfollowed hsame (by rw [hphase]; exact nofun)
      (exact_control hexact trivial) ?_
    unfold InPhase at hin ⊢
    rw [hphase] at hin
    have hstill : (stream.yields (.heartbeat stream.lastCursor)).phase = .live := hphase
    rw [hstill]
    obtain ⟨items, hreceived, hlive⟩ := hin
    obtain ⟨maxCursor, hreading, hreplayed⟩ := hlive.replayed
    refine ⟨items, hreceived, ?_, hlive.items, maxCursor, ?_, ?_⟩
    · unfold EventStream.lastYielded
      rw [hdomain, hsince]
      exact hlive.lastCursor
    · rw [hsince]
      exact hreading.of_same hsame
    · rw [hsince]
      exact hreplayed

theorem Joining.disconnect (h : Joining settings s) (hstream : s.stream = some stream) :
    Joining settings (s.finish settings stream) := by
  obtain ⟨hexact, subscription, hfollowed, -⟩ := h.stream stream hstream
  exact h.ordered.finish hfollowed ⟨rfl, rfl, rfl, rfl⟩ hexact

theorem Joining.streamStep (h : Joining settings s) (hstream : s.stream = some stream)
    (action : RealtimeAction) (hkept : CursorKept settings s action) :
    Joining settings (s.streamStep settings stream action) := by
  unfold Realtime.streamStep
  split
  · rename_i hphase
    exact h.readBounds hstream hphase hkept
  · rename_i hphase
    exact h.readReplay hstream hphase
  · rename_i hphase
    exact h.ready hstream hphase
  · rename_i hphase
    exact h.replayNext hstream _ hphase
  · rename_i hphase
    exact h.take hstream hphase
  · rename_i hphase
    exact h.deliver hstream _ hphase
  · rename_i hphase
    exact h.beat hstream _ hphase
  · exact h
  · exact h.disconnect hstream
  · exact h

/-- A writer's action, or a tick of the clock. -/
theorem Joining.log (h : Joining settings s) {action : DispatchAction} (hpage : action ≠ .page)
    (hvisible : VisibleInOrder settings s (.log action))
    (halive : NoneExpires settings s (.log action)) :
    Joining settings (s.step settings (.log action)) := by
  have hstep : s.step settings (.log action) =
      { s with dispatch := dispatchStep settings.dispatch s.dispatch action } := by
    cases action with
    | page => exact absurd rfl hpage
    | allocate transaction occurredAt => rfl
    | commit transaction => rfl
    | rollback transaction => rfl
    | tick seconds => rfl
  obtain ⟨more, hcommitted, hcursor, hnow, hmore⟩ :=
    dispatchStep_log settings.dispatch s.dispatch action hpage
  have hsorted : (s.dispatch.committed ++ more).Pairwise fun a b => a.id < b.id := by
    by_cases hcommit : ∃ transaction, action = .commit transaction
    · obtain ⟨transaction, rfl⟩ := hcommit
      have hin : (s.step settings (.log (.commit transaction))).dispatch.committed.Pairwise
          fun a b => a.id < b.id := hvisible
      rw [hstep] at hin
      rwa [← hcommitted]
    · rw [hmore fun transaction heq => hcommit ⟨transaction, heq⟩, List.append_nil]
      exact h.ordered.committed
  have hgrows : Grows s (s.step settings (.log action)) more := by
    rw [hstep]
    exact ⟨hcommitted, hsorted, hcursor, hnow, rfl, rfl, rfl⟩
  exact h.grows hgrows halive

theorem Joining.step (h : Joining settings s) (action : RealtimeAction)
    (hvisible : VisibleInOrder settings s action) (halive : NoneExpires settings s action)
    (hkept : CursorKept settings s action) : Joining settings (s.step settings action) := by
  have hreader : ∀ next : Realtime, (s.stream = none → next = s) →
      (∀ stream, s.stream = some stream → next = s.streamStep settings stream action) →
        Joining settings next := by
    intro next hnone hsome
    cases hstream : s.stream with
    | none =>
        rw [hnone hstream]
        exact h
    | some stream =>
        rw [hsome stream hstream]
        exact h.streamStep hstream action hkept
  cases action with
  | log action =>
      by_cases hpage : action = .page
      · subst hpage
        exact h
      · exact h.log hpage hvisible halive
  | load => exact h.load
  | publish => exact h.publish
  | hub call => exact h.otherCall call
  | openStream cursor actorKey dashboardId datasetIds =>
      exact h.openStream cursor actorKey dashboardId datasetIds
  | readBounds =>
      exact hreader _ (fun hnone => by simp only [Realtime.step, hnone])
        (fun stream hstream => by simp only [Realtime.step, hstream])
  | readReplay =>
      exact hreader _ (fun hnone => by simp only [Realtime.step, hnone])
        (fun stream hstream => by simp only [Realtime.step, hstream])
  | ready =>
      exact hreader _ (fun hnone => by simp only [Realtime.step, hnone])
        (fun stream hstream => by simp only [Realtime.step, hstream])
  | replayNext authorized =>
      exact hreader _ (fun hnone => by simp only [Realtime.step, hnone])
        (fun stream hstream => by simp only [Realtime.step, hstream])
  | take =>
      exact hreader _ (fun hnone => by simp only [Realtime.step, hnone])
        (fun stream hstream => by simp only [Realtime.step, hstream])
  | deliver authorized =>
      exact hreader _ (fun hnone => by simp only [Realtime.step, hnone])
        (fun stream hstream => by simp only [Realtime.step, hstream])
  | beat authorized =>
      exact hreader _ (fun hnone => by simp only [Realtime.step, hnone])
        (fun stream hstream => by simp only [Realtime.step, hstream])
  | disconnect =>
      exact hreader _ (fun hnone => by simp only [Realtime.step, hnone])
        (fun stream hstream => by simp only [Realtime.step, hstream])

theorem Started.joining (h : Started s) : Joining settings s := by
  refine ⟨h.ordered, fun stream hstream => ?_⟩
  rw [h.stream] at hstream
  exact nomatch hstream

end

end

/-- Replay joins live delivery: in every run of a process in which events become visible in
order and none expires while the stream is open, the stream yields the requested events above
its cursor, each once and none left out, if none of them has expired before it reads the
bounds. -/
theorem replay_joins_live (settings : StreamSettings) {s : Realtime} (h : Started s)
    {run : List RealtimeAction} (hvisible : Along (VisibleInOrder settings) (step settings) s run)
    (halive : Along (NoneExpires settings) (step settings) s run)
    (hkept : Along (CursorKept settings) (step settings) s run) :
    Always (Joined settings) (step settings) s run := by
  have hjoining : Always (Joining settings) (step settings) s run :=
    Always.of_along
      (fun s action hjoining hadmitted =>
        Joining.step hjoining action hadmitted.1 hadmitted.2.1 hadmitted.2.2)
      h.joining (hvisible.and (halive.and hkept))
  refine hjoining.imp fun s hjoining stream hstream => ?_
  have hexact := (hjoining.stream stream hstream).1
  exact ⟨domainEvents_pairwise hjoining.ordered.committed hexact, hexact⟩

/-! ## Two streams -/

instance (settings : StreamSettings) (s : Realtime) :
    (action : RealtimeAction) → Decidable (VisibleInOrder settings s action)
  | .log (.commit _) => inferInstanceAs (Decidable (List.Pairwise _ _))
  | .log (.allocate _ _) | .log (.rollback _) | .log (.tick _) | .log .page | .load | .publish
  | .hub _ | .openStream _ _ _ _ | .readBounds | .readReplay | .ready | .replayNext _ | .take
  | .deliver _ | .beat _ | .disconnect => .isTrue trivial

instance (settings : StreamSettings) (s : Realtime) (action : RealtimeAction) :
    Decidable (NoneExpires settings s action) :=
  inferInstanceAs (Decidable (_ → ∀ row ∈ _, _ → _ ∧ _))

instance (settings : StreamSettings) (d : DispatchState) (stream : EventStream) :
    Decidable (BoundsTell settings d stream) :=
  inferInstanceAs (Decidable (_ ∨ ∀ row ∈ _, _ → _ → _))

instance (settings : StreamSettings) (s : Realtime) :
    (action : RealtimeAction) → Decidable (CursorKept settings s action)
  | .readBounds =>
      match h : s.stream with
      | some stream => decidable_of_iff
          (stream.phase = .subscribed → BoundsTell settings s.dispatch stream)
          (by simp only [CursorKept, h])
      | none => .isTrue (by simp only [CursorKept, h])
  | .log _ | .load | .publish | .hub _ | .openStream _ _ _ _ | .readReplay | .ready
  | .replayNext _ | .take | .deliver _ | .beat _ | .disconnect => .isTrue trivial

def ordersSettings : StreamSettings :=
  { dispatch := ⟨100, 60⟩, hub := ⟨5, 20⟩, resourceOf := fun _ => ("dataset", "orders") }

/-- One event, with `now` on the clock. -/
def ordersAt (now lastCursor : Nat) : Realtime :=
  { dispatch := { sequence := 1, committed := [⟨1, 60⟩], now := now, lastCursor := lastCursor }
    page := []
    hub := RealtimeEventHub.start
    stream := none }

/-- A stream is opened at cursor 0; then a second event is committed. -/
def ordersRun : List RealtimeAction :=
  [.openStream (some 0) "ana" "sales" ["orders"], .readBounds, .log (.allocate 7 none),
    .log (.commit 7), .readReplay, .ready, .load, .replayNext true, .publish, .replayNext true,
    .take, .deliver true]

/-- The first event is replayed, and the second one is live. -/
theorem replay_joins_live_orders :
    Always (Joined ordersSettings) (step ordersSettings) (ordersAt 10 1) ordersRun :=
  replay_joins_live ordersSettings
    ⟨by decide, by decide +kernel, rfl, rfl, rfl⟩ (by decide +kernel) (by decide +kernel)
    (by decide +kernel)

/-- The only event of the log has expired: the bounds are 0 and 0, and tell nothing.  The stream
yields the second event and leaves out the first, without a resync. -/
theorem expired_log_untold :
    Started (ordersAt 100 0) ∧
      Along (VisibleInOrder ordersSettings) (step ordersSettings) (ordersAt 100 0) ordersRun ∧
      Along (NoneExpires ordersSettings) (step ordersSettings) (ordersAt 100 0) ordersRun ∧
      ¬ Always (Joined ordersSettings) (step ordersSettings) (ordersAt 100 0) ordersRun ∧
      ((play (step ordersSettings) (ordersAt 100 0) ordersRun).stream.map
          EventStream.yielded) =
        some [.ready 0, .domain ⟨2, "dataset", "orders"⟩] := by
  refine ⟨⟨by decide, by decide +kernel, rfl, rfl, rfl⟩, by decide +kernel, by decide +kernel,
    fun h => ?_, by decide +kernel⟩
  have hgap : ((play (step ordersSettings) (ordersAt 100 0) ordersRun).stream.any fun stream =>
      decide (stream.domainEvents ≠ stretch RealtimeEventEnvelope.eventId
        (requestedEvents ordersSettings
          (play (step ordersSettings) (ordersAt 100 0) ordersRun).dispatch.committed
          stream.resources) stream.since stream.lastYielded)) = true := by
    decide +kernel
  obtain ⟨stream, hstream, hne⟩ := (Option.any_eq_true _ _).mp hgap
  exact of_decide_eq_true hne (h.last stream hstream).2

end Realtime

end AskLake.Events

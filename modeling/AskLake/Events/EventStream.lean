/-
# `AskLake.Events.EventStream` — replay, then live delivery

A stream subscribes to the hub, reads a snapshot of the log, yields the events of the snapshot,
and then what its subscription is given.  It keeps one number, the id of the last event it has
yielded, and skips whatever is not above it:

    subscribe     the hub queues events from here on
    bounds        min and max id of the unexpired events
    replay        the events of its resources, cursor < id ≤ max
    ready         announces max; a cursor outside the bounds ends the stream
    replaying     one event after the other
    live          one queued item after the other; an overflow marker ends the stream

The two reads of the snapshot are two statements.  The dispatcher loads a page and then
publishes its events, and other sessions subscribe, read and close, between any two steps.
Whether the session is still authorized is asked before every event.
-/
import AskLake.Events.Dispatcher
import AskLake.Events.Hub

namespace AskLake.Events

open AskLake.Lib

structure StreamSettings where
  dispatch : DispatchSettings
  hub : HubSettings
  /-- `resource_type` and `resource_id` of the event with this id -/
  resourceOf : Nat → String × String

/-- `to_envelope` -/
def StreamSettings.envelope (settings : StreamSettings) (row : LogRow) : RealtimeEventEnvelope :=
  ⟨row.id, (settings.resourceOf row.id).1, (settings.resourceOf row.id).2⟩

structure ReplaySnapshot where
  minCursor : Nat
  maxCursor : Nat
  events : List RealtimeEventEnvelope
  deriving DecidableEq

inductive StreamItem
  | ready (currentCursor : Nat)
  | domain (event : RealtimeEventEnvelope)
  | resyncRequired (reason : String)
  | authorizationChanged
  | heartbeat (currentCursor : Nat)
  deriving DecidableEq

inductive StreamPhase
  | subscribed
  | bounded (minCursor maxCursor : Nat)
  | loaded (snapshot : ReplaySnapshot)
  | replaying (events : List RealtimeEventEnvelope)
  | live
  /-- An item is taken, and the session is being checked. -/
  | holding (event : RealtimeEventEnvelope)
  | closed
  deriving DecidableEq

structure EventStream where
  subscriptionId : Nat
  resources : List (String × String)
  initialCursor : Option Nat
  lastCursor : Nat
  phase : StreamPhase
  yielded : List StreamItem
  /-- The dispatcher's cursor when the stream subscribed. -/
  subscribedAt : Nat
  deriving DecidableEq

structure Realtime where
  dispatch : DispatchState
  /-- What the dispatcher has loaded and not yet published. -/
  page : List LogRow
  hub : RealtimeEventHub
  stream : Option EventStream
  deriving DecidableEq

inductive RealtimeAction
  /-- A transaction of a writer, or the clock. -/
  | log (action : DispatchAction)
  | load
  | publish
  /-- Another session. -/
  | hub (call : HubCall)
  | openStream (cursor : Option Nat) (actorKey dashboardId : String) (datasetIds : List String)
  | readBounds
  | readReplay
  | ready
  | replayNext (authorized : Bool)
  | take
  | deliver (authorized : Bool)
  | beat (authorized : Bool)
  | disconnect
  deriving DecidableEq

/-! ## Reading the log -/

/-- `func.min(id) or 0` of the unexpired events -/
def minCursor (s : DispatchState) : Nat :=
  ((visible s 0).map LogRow.id).min?.getD 0

/-- `RealtimeEventRepository.replay` -/
def replay (settings : StreamSettings) (s : DispatchState) (afterCursor : Nat)
    (resources : List (String × String)) (limit : Int) (throughCursor : Nat) :
    List RealtimeEventEnvelope :=
  ((((visibleInOrder s afterCursor).filter fun row =>
    resources.contains (settings.resourceOf row.id) && row.id ≤ throughCursor)).take
      (max 1 limit).toNat).map settings.envelope

/-! ## The generator -/

namespace EventStream

def yields (stream : EventStream) (item : StreamItem) : EventStream :=
  { stream with yielded := stream.yielded ++ [item] }

def inPhase (stream : EventStream) (phase : StreamPhase) : EventStream :=
  { stream with phase := phase }

def yieldsDomain (stream : EventStream) (event : RealtimeEventEnvelope) : EventStream :=
  { stream.yields (.domain event) with lastCursor := event.eventId }

def cursorExpired (snapshot : ReplaySnapshot) (lastCursor : Nat) : Bool :=
  (0 < snapshot.minCursor && lastCursor + 1 < snapshot.minCursor) ||
    snapshot.maxCursor < lastCursor

end EventStream

namespace Realtime

variable (settings : StreamSettings)

def subscription (s : Realtime) (stream : EventStream) : Option RealtimeSubscription :=
  s.hub.subscriptions.find? fun subscription =>
    subscription.subscriptionId = stream.subscriptionId

def withStream (s : Realtime) (stream : EventStream) : Realtime :=
  { s with stream := some stream }

/-- The `finally` of `_event_stream`. -/
def finish (s : Realtime) (stream : EventStream) : Realtime :=
  { s with
    hub := s.hub.step settings.hub (.close stream.subscriptionId)
    stream := some (stream.inPhase .closed) }

def unauthorized (s : Realtime) (stream : EventStream) : Realtime :=
  s.finish settings (stream.yields .authorizationChanged)

/-- `_load_after` -/
def load (s : Realtime) : Realtime :=
  if s.page = [] then
    { s with page := dispatchAfter s.dispatch s.dispatch.lastCursor settings.dispatch.replayLimit }
  else s

/-- One turn of the loop over the page. -/
def publish (s : Realtime) : Realtime :=
  match s.page with
  | [] => s
  | row :: rest =>
      if row.id ≤ s.dispatch.lastCursor then { s with page := rest }
      else
        { s with
          page := rest
          dispatch :=
            { s.dispatch with lastCursor := row.id, published := s.dispatch.published ++ [row] }
          hub := s.hub.step settings.hub (.publish (settings.envelope row)) }

/-- What another session does; only the dispatcher publishes. -/
def otherCall (s : Realtime) (call : HubCall) : Realtime :=
  let own := s.stream.map EventStream.subscriptionId
  match call with
  | .publish _ => s
  | .subscribe actorKey resources =>
      { s with hub := s.hub.step settings.hub (.subscribe actorKey resources) }
  | .get id => if own = some id then s else { s with hub := s.hub.step settings.hub (.get id) }
  | .close id => if own = some id then s else { s with hub := s.hub.step settings.hub (.close id) }

/-- The resources of a dashboard and its Datasets. -/
def streamResources (dashboardId : String) (datasetIds : List String) : List (String × String) :=
  ("dashboard", dashboardId) :: datasetIds.map fun datasetId => ("dataset", datasetId)

/-- `stream_realtime_events`, from its call of `subscribe`; an actor over its limit is refused. -/
def openStream (s : Realtime) (cursor : Option Nat) (actorKey dashboardId : String)
    (datasetIds : List String) : Realtime :=
  let resources := streamResources dashboardId datasetIds
  let hub := s.hub.subscribe settings.hub actorKey resources
  if s.stream.isSome ∨ hub.nextId = s.hub.nextId then s
  else
    { s with
      hub := hub
      stream := some
        { subscriptionId := s.hub.nextId
          resources := resources
          initialCursor := cursor
          lastCursor := cursor.getD 0
          phase := .subscribed
          yielded := []
          subscribedAt := s.dispatch.lastCursor } }

/-- `cursor_bounds` -/
def readBounds (s : Realtime) (stream : EventStream) : Realtime :=
  s.withStream (stream.inPhase (.bounded (minCursor s.dispatch) (maxCursor s.dispatch)))

/-- The rest of `_load_replay_snapshot`. -/
def readReplay (s : Realtime) (stream : EventStream) (minCursor maxCursor : Nat) : Realtime :=
  s.withStream (stream.inPhase (.loaded
    { minCursor := minCursor
      maxCursor := maxCursor
      events := replay settings s.dispatch stream.lastCursor stream.resources
        (settings.dispatch.replayLimit + 1) maxCursor }))

def ready (s : Realtime) (stream : EventStream) (snapshot : ReplaySnapshot) : Realtime :=
  let lastCursor := stream.initialCursor.elim snapshot.maxCursor fun _ => stream.lastCursor
  let events := stream.initialCursor.elim [] fun _ => snapshot.events
  let stream := { stream.yields (.ready snapshot.maxCursor) with lastCursor := lastCursor }
  if EventStream.cursorExpired snapshot lastCursor then
    s.finish settings (stream.yields (.resyncRequired "cursor_expired"))
  else if settings.dispatch.replayLimit < events.length then
    s.finish settings (stream.yields (.resyncRequired "replay_limit_exceeded"))
  else s.withStream (stream.inPhase (.replaying events))

def replayNext (s : Realtime) (stream : EventStream) (authorized : Bool) :
    List RealtimeEventEnvelope → Realtime
  | [] => s.withStream (stream.inPhase .live)
  | event :: rest =>
      if event.eventId ≤ stream.lastCursor then s.withStream (stream.inPhase (.replaying rest))
      else if authorized = false then s.unauthorized settings stream
      else s.withStream ((stream.yieldsDomain event).inPhase (.replaying rest))

/-- `subscription.get()`, where there is an item. -/
def take (s : Realtime) (stream : EventStream) : Realtime :=
  let taken := { s with hub := s.hub.step settings.hub (.get stream.subscriptionId) }
  match (s.subscription stream).bind fun subscription => subscription.queue.head? with
  | none => s
  | some .gap =>
      taken.finish settings (stream.yields (.resyncRequired "subscriber_queue_overflow"))
  | some (.item event) =>
      if event.eventId ≤ stream.lastCursor then taken
      else taken.withStream (stream.inPhase (.holding event))

def deliver (s : Realtime) (stream : EventStream) (authorized : Bool)
    (event : RealtimeEventEnvelope) : Realtime :=
  if authorized = false then s.unauthorized settings stream
  else s.withStream ((stream.yieldsDomain event).inPhase .live)

/-- The queue stays empty for a while. -/
def beat (s : Realtime) (stream : EventStream) (authorized : Bool) : Realtime :=
  if authorized = false then s.unauthorized settings stream
  else s.withStream (stream.yields (.heartbeat stream.lastCursor))

/-- One step of the generator, where it is in the phase for it. -/
def streamStep (s : Realtime) (stream : EventStream) (action : RealtimeAction) : Realtime :=
  match action, stream.phase with
  | .readBounds, .subscribed => s.readBounds stream
  | .readReplay, .bounded minCursor maxCursor => s.readReplay settings stream minCursor maxCursor
  | .ready, .loaded snapshot => s.ready settings stream snapshot
  | .replayNext authorized, .replaying events => s.replayNext settings stream authorized events
  | .take, .live => s.take settings stream
  | .deliver authorized, .holding event => s.deliver settings stream authorized event
  | .beat authorized, .live => s.beat settings stream authorized
  | .disconnect, .closed => s
  | .disconnect, _ => s.finish settings stream
  | _, _ => s

def step (s : Realtime) (action : RealtimeAction) : Realtime :=
  match action with
  | .log .page => s
  | .log action => { s with dispatch := dispatchStep settings.dispatch s.dispatch action }
  | .load => s.load settings
  | .publish => s.publish settings
  | .hub call => s.otherCall settings call
  | .openStream cursor actorKey dashboardId datasetIds =>
      s.openStream settings cursor actorKey dashboardId datasetIds
  | action =>
      match s.stream with
      | none => s
      | some stream => s.streamStep settings stream action

end Realtime

end AskLake.Events

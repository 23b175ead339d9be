import Mathlib.Logic.Function.Basic
import DyunGu.Stream.Queue

namespace DyunGu
namespace Stream

/-!
# The stream hub

Publishers and subscribers of a URL meet at a core, which the registry of the
hub keeps under the URL.  The registry and each core have a lock of their own,
and a call takes them one after the other: between two of them any other call
may go on.  A step of the machine below is what one call does while it holds
one lock.

Cores are numbered in the order of their creation, which stands for the
identity of the shared pointers.  Handles and calls stay in their lists when
they are done, so that a number names one of them for good.
-/

variable {P : Type}

/-- The part of a core that its lock guards. -/
structure StreamState (P : Type) where
  subscribers : List (Nat × SubscriberQueue P)
  publishers : Nat
  publisherClosed : Bool
  keyframeRequests : Nat

inductive DispatchResult where
  | accepted
  | droppedByPolicy
  | rejectedClosed
deriving DecidableEq, Repr

structure SubscriberOptions where
  queueCapacity : Nat
  backpressure : BackpressurePolicy
  mediaFilter : MediaFilter
deriving DecidableEq, Repr

def SubscriberOptions.queue (options : SubscriberOptions) (pos : 0 < options.queueCapacity) :
    SubscriberQueue P where
  queue := []
  capacity := options.queueCapacity
  policy := options.backpressure
  filter := options.mediaFilter
  overflowed := false
  droppingUntilKeyframe := false
  capacity_pos := pos

namespace StreamState

def empty : StreamState P := ⟨[], 0, false, 0⟩

def isIdle (state : StreamState P) : Bool :=
  decide (state.publishers = 0) && state.subscribers.isEmpty

def enterPublisher (state : StreamState P) : StreamState P :=
  { state with publishers := state.publishers + 1, publisherClosed := false }

def leavePublisher (state : StreamState P) : StreamState P :=
  { state with
    publishers := state.publishers - 1
    publisherClosed := if state.publishers - 1 = 0 then true else state.publisherClosed }

def enterSubscriber (state : StreamState P) (limit : Nat) (url : String) (id : Nat)
    (fresh : SubscriberQueue P) : Except Error (StreamState P) :=
  if limit <= state.subscribers.length then
    .error (.overflow
      ("subscriber limit " ++ toString limit ++ " reached for stream " ++ url))
  else .ok { state with subscribers := KeyedList.insert id fresh state.subscribers }

def leaveSubscriber (state : StreamState P) (id : Nat) : StreamState P :=
  { state with subscribers := KeyedList.erase id state.subscribers }

/-- The frame is offered to every subscriber. -/
def offer (state : StreamState P) (frame : MediaFrame P) : StreamState P :=
  { state with
    subscribers := state.subscribers.map fun entry => (entry.1, entry.2.offered frame) }

def pushFrame (state : StreamState P) (closed : Bool) (frame : MediaFrame P) :
    StreamState P × DispatchResult :=
  if state.publisherClosed || closed then (state, .rejectedClosed)
  else
    let offers := state.subscribers.map fun entry => (entry.2.offer frame).2
    (state.offer frame,
      if offers.any Offer.enqueued || !offers.any Offer.dropped then .accepted
      else .droppedByPolicy)

def requestKeyframe (state : StreamState P) : StreamState P :=
  { state with keyframeRequests := state.keyframeRequests + 1 }

def takeKeyframeRequests (state : StreamState P) : StreamState P × Nat :=
  ({ state with keyframeRequests := 0 }, state.keyframeRequests)

/-- What a receive comes to under the lock: the answer, or none while it waits
for a frame, and whether the subscriber is gone from the stream. -/
structure Heard (P : Type) where
  state : StreamState P
  answer : Option (Received P)
  gone : Bool

def receive (state : StreamState P) (id : Nat) (patient : Bool) : Heard P :=
  match KeyedList.find id state.subscribers with
  | none => ⟨state, some (.ok .endOfStream), true⟩
  | some subscriber =>
      if subscriber.overflowed then
        ⟨state.leaveSubscriber id, some (.error queueOverflow), true⟩
      else
        match subscriber.queue with
        | frame :: rest =>
            ⟨{ state with
                subscribers :=
                  KeyedList.insert id { subscriber with queue := rest } state.subscribers },
              some (.ok (.frame frame)), false⟩
        | [] =>
            if state.publisherClosed then ⟨state, some (.ok .endOfStream), false⟩
            else if patient then ⟨state, none, false⟩
            else ⟨state, some (.ok .timedOut), false⟩

end StreamState

/-! ## Handles and calls -/

/-- A publisher has the core but is not counted yet, is open, has marked itself
closed but is still counted, or is no longer counted. -/
inductive PublisherPhase where
  | joining
  | opened
  | leaving
  | left
deriving DecidableEq, Repr

structure Publisher where
  url : String
  core : Nat
  phase : PublisherPhase
deriving DecidableEq, Repr

/-- The same for a subscriber and its queue; one may also be turned away at the
limit of the stream. -/
inductive SubscriberPhase where
  | joining
  | opened
  | leaving
  | left
  | rejected
deriving DecidableEq, Repr

structure Subscriber (P : Type) where
  url : String
  core : Nat
  id : Nat
  phase : SubscriberPhase
  dropped : Bool
  fresh : SubscriberQueue P

/-- Whether a receive of the subscriber waits, and the records of one
subscriber. -/
structure Log (P : Type) where
  waiting : Bool
  published : List (MediaFrame P)
  received : List (Received P)

def Log.empty : Log P := ⟨false, [], []⟩

/-- A receive is answered, or it waits. -/
def Log.hear (log : Log P) : Option (Received P) -> Log P
  | some outcome => { log with waiting := false, received := log.received ++ [outcome] }
  | none => { log with waiting := true }

/-- A request for a keyframe that has the core and is or is not noted there. -/
structure Request where
  core : Nat
  noted : Bool
deriving DecidableEq, Repr

/-- An attempt to remove an idle core, before the first look at the core,
before the lock of the registry, or over. -/
inductive ReapPhase where
  | looking
  | entering
  | ended
deriving DecidableEq, Repr

structure Reap where
  url : String
  core : Nat
  phase : ReapPhase
deriving DecidableEq, Repr

/-- The attempt that holds the lock of the registry, before or after the second
look at the core. -/
structure Holder where
  url : String
  core : Nat
  idle : Bool
deriving DecidableEq, Repr

structure Hub (P : Type) where
  maxStreams : Nat
  maxSubscribersPerStream : Nat
  registry : List (String × Nat)
  cores : Nat -> StreamState P
  created : Nat
  nextSubscriber : Nat
  holder : Option Holder
  publishers : List Publisher
  subscribers : List (Subscriber P)
  logs : Nat -> Log P
  requests : List Request
  reaps : List Reap

namespace Hub

def withLimits (maxStreams maxSubscribersPerStream : Nat) : Hub P where
  maxStreams := maxStreams
  maxSubscribersPerStream := maxSubscribersPerStream
  registry := []
  cores := fun _ => StreamState.empty
  created := 0
  nextSubscriber := 0
  holder := none
  publishers := []
  subscribers := []
  logs := fun _ => Log.empty
  requests := []
  reaps := []

/-- A new core under a URL. -/
def create (hub : Hub P) (url : String) : Hub P :=
  { hub with
    registry := KeyedList.insert url hub.created hub.registry
    cores := Function.update hub.cores hub.created StreamState.empty
    created := hub.created + 1 }

def getOrCreateStream (hub : Hub P) (url : String) : Except Error (Hub P × Nat) :=
  match KeyedList.find url hub.registry with
  | some existing => .ok (hub, existing)
  | none =>
      if hub.maxStreams <= hub.registry.length then
        .error (.overflow
          ("stream registry limit " ++ toString hub.maxStreams ++ " reached"))
      else .ok (hub.create url, hub.created)

/-- Opening a publisher, up to the lock of its core. -/
def publish (hub : Hub P) (url : String) : Except Error (Hub P) :=
  match hub.getOrCreateStream url with
  | .error error => .error error
  | .ok (hub, core) =>
      .ok { hub with publishers := hub.publishers ++ [⟨url, core, .joining⟩] }

/-- Opening a subscriber, up to the lock of its core. -/
def subscribe (hub : Hub P) (url : String) (options : SubscriberOptions) :
    Except Error (Hub P) :=
  if zero : options.queueCapacity = 0 then
    .error (.invalidArgument "subscriber queue_capacity must be greater than zero")
  else if hub.maxSubscribersPerStream = 0 then
    .error (.overflow "subscriber limit for stream is zero")
  else
    match hub.getOrCreateStream url with
    | .error error => .error error
    | .ok (hub, core) =>
        .ok { hub with
          nextSubscriber := hub.nextSubscriber + 1
          subscribers := hub.subscribers ++ [⟨url, core, hub.nextSubscriber, .joining, false,
            options.queue (Nat.pos_of_ne_zero zero)⟩] }

/-- Requesting a keyframe, up to the lock of the core. -/
def requestKeyframe (hub : Hub P) (url : String) : Except Error (Hub P) :=
  match hub.getOrCreateStream url with
  | .error error => .error error
  | .ok (hub, core) => .ok { hub with requests := hub.requests ++ [⟨core, false⟩] }

def setCore (hub : Hub P) (core : Nat) (state : StreamState P) : Hub P :=
  { hub with cores := Function.update hub.cores core state }

def setPublisher (hub : Hub P) (i : Nat) (publisher : Publisher)
    (phase : PublisherPhase) : Hub P :=
  { hub with publishers := hub.publishers.set i { publisher with phase := phase } }

def setSubscriber (hub : Hub P) (i : Nat) (subscriber : Subscriber P)
    (phase : SubscriberPhase) : Hub P :=
  { hub with subscribers := hub.subscribers.set i { subscriber with phase := phase } }

def tryReap (hub : Hub P) (url : String) (core : Nat) : Hub P :=
  { hub with reaps := hub.reaps ++ [⟨url, core, .looking⟩] }

def setReap (hub : Hub P) (i : Nat) (reap : Reap) (phase : ReapPhase) : Hub P :=
  { hub with reaps := hub.reaps.set i { reap with phase := phase } }

def hear (hub : Hub P) (id : Nat) (answer : Option (Received P)) : Hub P :=
  { hub with logs := Function.update hub.logs id ((hub.logs id).hear answer) }

/-- The frame is noted for everyone who has joined the core. -/
def notePublished (hub : Hub P) (core : Nat) (frame : MediaFrame P) : Hub P :=
  { hub with
    logs := fun id =>
      match hub.subscribers[id]? with
      | some subscriber =>
          if subscriber.core = core ∧ subscriber.phase ≠ .joining then
            { hub.logs id with published := (hub.logs id).published ++ [frame] }
          else hub.logs id
      | none => hub.logs id }

/-! ## The machine -/

/-- What publishers do: take their place in the core, publish, look for
requests, mark themselves closed, and leave the core. -/
inductive PublisherAction (P : Type) where
  | enter
  | pushFrame (frame : MediaFrame P)
  | takeKeyframeRequests
  | close
  | leave

/-- What subscribers do.  A receive whose deadline is not ahead does not wait,
and one that waits is woken or runs out. -/
inductive SubscriberAction where
  | enter
  | receive (patient : Bool)
  | wake (patient : Bool)
  | expire
  | close
  | leave
  | drop
deriving DecidableEq, Repr

inductive ReapAction where
  | look
  | enter
deriving DecidableEq, Repr

inductive HolderAction where
  | look
  | remove
deriving DecidableEq, Repr

/-- The steps of the calls.  Numbers name publishers, subscribers, requests and
attempts to remove a core. -/
inductive Event (P : Type) where
  | publish (url : String)
  | subscribe (url : String) (options : SubscriberOptions)
  | requestKeyframe (url : String)
  | publisher (i : Nat) (action : PublisherAction P)
  | subscriber (i : Nat) (action : SubscriberAction)
  | noteRequest (i : Nat)
  | reap (i : Nat) (action : ReapAction)
  | holder (action : HolderAction)

/-- What a call does that needs the registry: nothing while it is locked, and
nothing when it fails. -/
def registered (hub : Hub P) (result : Except Error (Hub P)) : Option (Hub P) :=
  if hub.holder.isSome then none
  else
    match result with
    | .ok next => some next
    | .error _ => some hub

/-- A receive of an open subscriber under the lock of its core. -/
def receiveLocked (hub : Hub P) (i : Nat) (subscriber : Subscriber P) (patient : Bool) :
    Hub P :=
  let heard := (hub.cores subscriber.core).receive subscriber.id patient
  let told := (hub.setCore subscriber.core heard.state).hear subscriber.id heard.answer
  if heard.gone then
    (told.setSubscriber i subscriber .left).tryReap subscriber.url subscriber.core
  else told

def stepPublisher (hub : Hub P) (i : Nat) (publisher : Publisher) :
    PublisherAction P -> Option (Hub P)
  | .enter =>
      if publisher.phase = .joining then
        some ((hub.setCore publisher.core (hub.cores publisher.core).enterPublisher).setPublisher
          i publisher .opened)
      else none
  | .pushFrame frame =>
      if publisher.phase = .joining then none
      else
        match (hub.cores publisher.core).pushFrame (decide (publisher.phase ≠ .opened)) frame with
        | (_, .rejectedClosed) => some hub
        | (state, _) =>
            some ((hub.setCore publisher.core state).notePublished publisher.core frame)
  | .takeKeyframeRequests =>
      if publisher.phase = .joining then none
      else
        some (hub.setCore publisher.core (hub.cores publisher.core).takeKeyframeRequests.1)
  | .close =>
      match publisher.phase with
      | .joining => none
      | .opened => some (hub.setPublisher i publisher .leaving)
      | .leaving | .left => some hub
  | .leave =>
      if publisher.phase = .leaving then
        some (((hub.setCore publisher.core
          (hub.cores publisher.core).leavePublisher).setPublisher i publisher .left).tryReap
            publisher.url publisher.core)
      else none

def stepSubscriber (hub : Hub P) (i : Nat) (subscriber : Subscriber P) :
    SubscriberAction -> Option (Hub P)
  | .enter =>
      if subscriber.phase = .joining then
        match (hub.cores subscriber.core).enterSubscriber hub.maxSubscribersPerStream
            subscriber.url subscriber.id subscriber.fresh with
        | .ok state => some ((hub.setCore subscriber.core state).setSubscriber i subscriber .opened)
        | .error _ =>
            if (hub.cores subscriber.core).isIdle then
              some ((hub.setSubscriber i subscriber .rejected).tryReap
                subscriber.url subscriber.core)
            else some (hub.setSubscriber i subscriber .rejected)
      else none
  | .receive patient =>
      if (hub.logs subscriber.id).waiting || subscriber.dropped then none
      else
        match subscriber.phase with
        | .opened => some (hub.receiveLocked i subscriber patient)
        | .left => some (hub.hear subscriber.id (some (.ok .endOfStream)))
        | _ => none
  | .wake patient =>
      if (hub.logs subscriber.id).waiting then some (hub.receiveLocked i subscriber patient)
      else none
  | .expire =>
      if (hub.logs subscriber.id).waiting then
        some (hub.hear subscriber.id (some (.ok .timedOut)))
      else none
  | .close =>
      if (hub.logs subscriber.id).waiting || subscriber.dropped then none
      else
        match subscriber.phase with
        | .opened => some (hub.setSubscriber i subscriber .leaving)
        | .left => some hub
        | _ => none
  | .leave =>
      if subscriber.phase = .leaving then
        some (((hub.setCore subscriber.core
          ((hub.cores subscriber.core).leaveSubscriber subscriber.id)).setSubscriber
            i subscriber .left).tryReap subscriber.url subscriber.core)
      else none
  | .drop =>
      if (hub.logs subscriber.id).waiting || subscriber.dropped then none
      else
        match subscriber.phase with
        | .opened | .left =>
            some { hub with
              subscribers := hub.subscribers.set i { subscriber with dropped := true } }
        | _ => none

def stepRequest (hub : Hub P) (i : Nat) (request : Request) : Option (Hub P) :=
  if request.noted then none
  else
    some { hub.setCore request.core (hub.cores request.core).requestKeyframe with
      requests := hub.requests.set i { request with noted := true } }

def stepReap (hub : Hub P) (i : Nat) (reap : Reap) : ReapAction -> Option (Hub P)
  | .look =>
      if reap.phase = .looking then
        some (hub.setReap i reap (if (hub.cores reap.core).isIdle then .entering else .ended))
      else none
  | .enter =>
      if reap.phase = .entering ∧ hub.holder = none then
        if KeyedList.find reap.url hub.registry = some reap.core then
          some { hub.setReap i reap .ended with holder := some ⟨reap.url, reap.core, false⟩ }
        else some (hub.setReap i reap .ended)
      else none

def stepHolder (hub : Hub P) (holder : Holder) : HolderAction -> Option (Hub P)
  | .look =>
      if holder.idle then none
      else if (hub.cores holder.core).isIdle then
        some { hub with holder := some { holder with idle := true } }
      else some { hub with holder := none }
  | .remove =>
      if holder.idle then
        some { hub with holder := none, registry := KeyedList.erase holder.url hub.registry }
      else none

def step (hub : Hub P) : Event P -> Option (Hub P)
  | .publish url => hub.registered (hub.publish url)
  | .subscribe url options => hub.registered (hub.subscribe url options)
  | .requestKeyframe url => hub.registered (hub.requestKeyframe url)
  | .publisher i action =>
      hub.publishers[i]?.bind fun publisher => hub.stepPublisher i publisher action
  | .subscriber i action =>
      hub.subscribers[i]?.bind fun subscriber => hub.stepSubscriber i subscriber action
  | .noteRequest i => hub.requests[i]?.bind fun request => hub.stepRequest i request
  | .reap i action => hub.reaps[i]?.bind fun reap => hub.stepReap i reap action
  | .holder action => hub.holder.bind fun holder => hub.stepHolder holder action

def machine : Machine (Hub P) (Event P) := ⟨step⟩

end Hub

end Stream
end DyunGu

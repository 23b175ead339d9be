import DyunGu.Lib.Records
import DyunGu.Stream.Transitions

namespace DyunGu
namespace Stream
namespace Hub

/-!
# What the cores count

In every state of the hub, whatever calls are under way: a core counts just
the publishers that have entered it and not left it yet, and it keeps a queue
for just the subscribers of which this holds.
-/

variable {P : Type} {hub next : Hub P} {event : Event P}

@[simp] theorem setCore_self (core : Nat) (state : StreamState P) :
    (hub.setCore core state).cores core = state := by
  simp [setCore]

theorem setCore_of_ne {core other : Nat} (distinct : other ≠ core) (state : StreamState P) :
    (hub.setCore core state).cores other = hub.cores other := by
  simp [setCore, Function.update_of_ne distinct]

/-- A property of core states that a change keeps holds of all cores as
before. -/
theorem setCore_congr {Value : Type} (property : StreamState P -> Value) {core : Nat}
    {state : StreamState P} (same : property state = property (hub.cores core)) (other : Nat) :
    property ((hub.setCore core state).cores other) = property (hub.cores other) := by
  by_cases isCore : other = core
  · rw [isCore, setCore_self]
    exact same
  · rw [setCore_of_ne isCore]

/-! ## Cores are numbered -/

/-- All cores that are known to someone were created. -/
structure Bounded (hub : Hub P) : Prop where
  registry : forall url core, KeyedList.find url hub.registry = some core -> core < hub.created
  publishers : forall publisher, publisher ∈ hub.publishers -> publisher.core < hub.created
  subscribers : forall subscriber, subscriber ∈ hub.subscribers -> subscriber.core < hub.created

theorem located_bounded {url : String} {middle : Hub P} {core : Nat}
    (located : Located hub url middle core) (bounded : Bounded hub) :
    Bounded middle ∧ core < middle.created := by
  cases located with
  | existing core found => exact ⟨bounded, bounded.registry url _ found⟩
  | new absent =>
      refine ⟨⟨fun other core found => ?_, fun publisher member => ?_,
        fun subscriber member => ?_⟩, Nat.lt_succ_self _⟩
      · change KeyedList.find other (KeyedList.insert url hub.created hub.registry) = _ at found
        rw [KeyedList.find_insert] at found
        split at found
        · cases found
          exact Nat.lt_succ_self _
        · exact Nat.lt_succ_of_lt (bounded.registry other core found)
      · exact Nat.lt_succ_of_lt (bounded.publishers publisher member)
      · exact Nat.lt_succ_of_lt (bounded.subscribers subscriber member)

theorem bounded_step (bounded : Bounded hub) (transition : Transition hub event next) :
    Bounded next := by
  cases transition with
  | same => exact bounded
  | publish free located =>
      rcases located_bounded located bounded with ⟨after, within⟩
      exact ⟨after.registry, Records.forall_concat after.publishers within, after.subscribers⟩
  | subscribe free limit located pos =>
      rcases located_bounded located bounded with ⟨after, within⟩
      exact ⟨after.registry, after.publishers, Records.forall_concat after.subscribers within⟩
  | requestKeyframe free located =>
      have after := (located_bounded located bounded).1
      exact ⟨after.registry, after.publishers, after.subscribers⟩
  | enterPublisher found _ | closePublisher found _ | leavePublisher found _ =>
      have within := bounded.publishers _ (Records.mem_of_found found)
      exact ⟨bounded.registry, Records.forall_set bounded.publishers within, bounded.subscribers⟩
  | enterSubscriber found _ | reject found _ _ | rejectIdle found _ _ | depart _ found
  | closeSubscriber found _ | leaveSubscriber found _ | dropSubscriber found _ =>
      have within := bounded.subscribers _ (Records.mem_of_found found)
      exact ⟨bounded.registry, bounded.publishers, Records.forall_set bounded.subscribers within⟩
  | holderRemove held idle =>
      refine ⟨fun url core found => bounded.registry url core ?_, bounded.publishers,
        bounded.subscribers⟩
      change KeyedList.find url (KeyedList.erase _ hub.registry) = _ at found
      rw [KeyedList.find_erase] at found
      split at found
      · cases found
      · exact found
  | pushFrame | takeKeyframeRequests | hear | deliver | noteRequest | reapLook | reapHit
  | reapMiss | holderIdle | holderBusy =>
      exact ⟨bounded.registry, bounded.publishers, bounded.subscribers⟩

/-! ## Publishers -/

/-- The publisher has entered the core and not left it. -/
def counts (core : Nat) (publisher : Publisher) : Bool :=
  decide (publisher.core = core) &&
    (decide (publisher.phase = .opened) || decide (publisher.phase = .leaving))

structure Counted (hub : Hub P) : Prop where
  count : forall core, (hub.cores core).publishers = hub.publishers.countP (counts core)
  closed : forall core, (hub.cores core).publisherClosed = true -> (hub.cores core).publishers = 0

/-- The part of a core state that has to do with publishers. -/
def seats (state : StreamState P) : Nat × Bool := (state.publishers, state.publisherClosed)

theorem counted_congr (counted : Counted hub) (publishers : next.publishers = hub.publishers)
    (states : forall core, seats (next.cores core) = seats (hub.cores core)) : Counted next := by
  have same (core : Nat) := Prod.mk.inj (states core)
  refine ⟨fun core => ?_, fun core closed => ?_⟩
  · rw [(same core).1, publishers]
    exact counted.count core
  · rw [(same core).2] at closed
    rw [(same core).1]
    exact counted.closed core closed

theorem located_counted {url : String} {middle : Hub P} {core : Nat}
    (located : Located hub url middle core) (bounded : Bounded hub) (counted : Counted hub) :
    Counted middle := by
  cases located with
  | existing core found => exact counted
  | new absent =>
      have none : hub.publishers.countP (counts hub.created) = 0 := by
        rw [List.countP_eq_zero]
        intro publisher member
        have within := bounded.publishers publisher member
        simp [counts, Nat.ne_of_lt within]
      have core_new (core : Nat) : (hub.create url).cores core =
          if core = hub.created then StreamState.empty else hub.cores core := by
        simp [create, Function.update_apply]
      refine ⟨fun core => ?_, fun core closed => ?_⟩
      · rw [core_new]
        split
        · rename_i isNew
          rw [isNew]
          exact none.symm
        · exact counted.count core
      · rw [core_new] at closed ⊢
        split at closed
        · cases closed
        · rename_i isOld
          rw [if_neg isOld]
          exact counted.closed core closed

/-- A publisher that moves on, with the count of its core. -/
theorem counted_set {i : Nat} {publisher : Publisher} {phase : PublisherPhase}
    {state : StreamState P} (counted : Counted hub)
    (found : hub.publishers[i]? = some publisher)
    (balanced : state.publishers + (if counts publisher.core publisher then 1 else 0) =
      (hub.cores publisher.core).publishers +
        (if counts publisher.core { publisher with phase := phase } then 1 else 0))
    (closed : state.publisherClosed = true -> state.publishers = 0) :
    Counted ((hub.setCore publisher.core state).setPublisher i publisher phase) := by
  refine ⟨fun core => ?_, fun core isClosed => ?_⟩
  · have before := counted.count core
    have after := Records.countP_set (counts core) found { publisher with phase := phase }
    show ((hub.setCore publisher.core state).cores core).publishers =
      (hub.publishers.set i _).countP _
    by_cases isCore : core = publisher.core
    · subst isCore
      rw [setCore_self]
      omega
    · rw [setCore_of_ne isCore]
      simp only [counts, decide_eq_false (Ne.symm isCore), Bool.false_and] at after
      exact before.trans (Nat.add_right_cancel after).symm
  · change ((hub.setCore publisher.core state).cores core).publisherClosed = true at isClosed
    show ((hub.setCore publisher.core state).cores core).publishers = 0
    by_cases isCore : core = publisher.core
    · rw [isCore, setCore_self] at isClosed ⊢
      exact closed isClosed
    · rw [setCore_of_ne isCore] at isClosed ⊢
      exact counted.closed core isClosed

theorem counted_step (bounded : Bounded hub) (counted : Counted hub)
    (transition : Transition hub event next) : Counted next := by
  cases transition with
  | same => exact counted
  | @publish url middle created free located =>
      have after := located_counted located bounded counted
      refine ⟨fun core => ?_, after.closed⟩
      show (middle.cores core).publishers = (middle.publishers ++ [_]).countP (counts core)
      rw [List.countP_append, after.count]
      simp [counts]
  | @enterPublisher i publisher found joining =>
      apply counted_set counted found
      · simp [counts, joining, StreamState.enterPublisher]
      · intro closed
        cases closed
  | @closePublisher i publisher found opened =>
      refine ⟨fun core => ?_, counted.closed⟩
      have after := Records.countP_set (counts core) found { publisher with phase := .leaving }
      have same : counts core { publisher with phase := .leaving } = counts core publisher := by
        simp [counts, opened]
      rw [same] at after
      exact (counted.count core).trans (Nat.add_right_cancel after).symm
  | @leavePublisher i publisher found leaving =>
      have present : 0 < (hub.cores publisher.core).publishers := by
        rw [counted.count, List.countP_pos_iff]
        exact ⟨publisher, Records.mem_of_found found, by simp [counts, leaving]⟩
      have after : Counted ((hub.setCore publisher.core
          (hub.cores publisher.core).leavePublisher).setPublisher i publisher .left) := by
        apply counted_set counted found
        · simp [counts, leaving, StreamState.leavePublisher]
          omega
        · unfold StreamState.leavePublisher
          dsimp only
          split
          · intro _
            assumption
          · intro closed
            have zero := counted.closed _ closed
            omega
      exact counted_congr after rfl fun _ => rfl
  | subscribe free limit located pos =>
      exact counted_congr (located_counted located bounded counted) rfl fun _ => rfl
  | requestKeyframe free located =>
      exact counted_congr (located_counted located bounded counted) rfl fun _ => rfl
  | pushFrame | takeKeyframeRequests | enterSubscriber | deliver | depart | leaveSubscriber
  | noteRequest =>
      exact counted_congr counted rfl (setCore_congr seats rfl)
  | reject | rejectIdle | hear | closeSubscriber | dropSubscriber | reapLook | reapHit | reapMiss
  | holderIdle | holderBusy | holderRemove =>
      exact counted_congr counted rfl fun _ => rfl

/-! ## Subscribers -/

/-- The subscriber has entered its core and not left it. -/
def present (subscriber : Subscriber P) : Bool :=
  decide (subscriber.phase = .opened) || decide (subscriber.phase = .leaving)

/-- The core keeps a queue under this number. -/
def keeps (state : StreamState P) (id : Nat) : Bool := (KeyedList.find id state.subscribers).isSome

structure Tabled (hub : Hub P) : Prop where
  number : hub.nextSubscriber = hub.subscribers.length
  ids : forall (i : Nat) (subscriber : Subscriber P),
    hub.subscribers[i]? = some subscriber -> subscriber.id = i
  entries : forall core id, keeps (hub.cores core) id = true <->
    Exists fun subscriber => hub.subscribers[id]? = some subscriber ∧ subscriber.core = core ∧
      present subscriber = true

theorem tabled_congr (tabled : Tabled hub) (subscribers : next.subscribers = hub.subscribers)
    (number : next.nextSubscriber = hub.nextSubscriber)
    (states : forall core, keeps (next.cores core) = keeps (hub.cores core)) : Tabled next := by
  refine ⟨?_, ?_, ?_⟩
  · rw [number, subscribers]
    exact tabled.number
  · rw [subscribers]
    exact tabled.ids
  · intro core id
    rw [states, subscribers]
    exact tabled.entries core id

theorem keeps_empty : keeps (StreamState.empty : StreamState P) = fun _ => false := rfl

theorem keeps_insert (state : StreamState P) (id : Nat) (entry : SubscriberQueue P) :
    keeps { state with subscribers := KeyedList.insert id entry state.subscribers } =
      fun other => if id = other then true else keeps state other := by
  funext other
  unfold keeps
  dsimp only
  rw [KeyedList.find_insert]
  split <;> rfl

theorem keeps_leaveSubscriber (state : StreamState P) (id : Nat) :
    keeps (state.leaveSubscriber id) =
      fun other => if id = other then false else keeps state other := by
  funext other
  unfold keeps StreamState.leaveSubscriber
  dsimp only
  rw [KeyedList.find_erase]
  split <;> rfl

theorem keeps_offer (state : StreamState P) (frame : MediaFrame P) :
    keeps (state.offer frame) = keeps state := by
  funext id
  have mapped := KeyedList.find_map (fun entry : SubscriberQueue P => entry.offered frame) id
    state.subscribers
  exact (congrArg Option.isSome mapped).trans Option.isSome_map

theorem located_tabled {url : String} {middle : Hub P} {core : Nat}
    (located : Located hub url middle core) (bounded : Bounded hub) (tabled : Tabled hub) :
    Tabled middle := by
  cases located with
  | existing core found => exact tabled
  | new absent =>
      refine tabled_congr tabled rfl rfl fun core => ?_
      apply setCore_congr
      -- nobody has entered a core that was not created
      funext id
      rw [keeps_empty, eq_comm, Bool.eq_false_iff]
      intro kept
      rcases (tabled.entries hub.created id).mp kept with ⟨subscriber, found, isCore, _⟩
      have within := bounded.subscribers subscriber (Records.mem_of_found found)
      rw [isCore] at within
      exact Nat.lt_irrefl _ within

/-- A subscriber that moves on, with the queue its core keeps for it. -/
theorem tabled_set {i : Nat} {subscriber : Subscriber P} {state : StreamState P}
    (tabled : Tabled hub) (found : hub.subscribers[i]? = some subscriber)
    (changed : Subscriber P) (sameCore : changed.core = subscriber.core)
    (sameId : changed.id = subscriber.id)
    (table : keeps state = fun other =>
      if subscriber.id = other then present changed else keeps (hub.cores subscriber.core) other) :
    Tabled { hub.setCore subscriber.core state with
      subscribers := hub.subscribers.set i changed } := by
  have isId := tabled.ids i subscriber found
  refine ⟨?_, fun j other atJ => ?_, fun core id => ?_⟩
  · show hub.nextSubscriber = (hub.subscribers.set i changed).length
    rw [List.length_set]
    exact tabled.number
  · change (hub.subscribers.set i changed)[j]? = some other at atJ
    rw [Records.find_set found] at atJ
    split at atJ
    · rename_i same
      cases atJ
      rw [sameId, isId]
      exact same
    · exact tabled.ids j other atJ
  · show keeps ((hub.setCore subscriber.core state).cores core) id = true <->
      Exists fun other => (hub.subscribers.set i changed)[id]? = some other ∧ _
    rw [Records.find_set found]
    have before := tabled.entries core id
    by_cases isSelf : i = id
    · subst isSelf
      rw [if_pos rfl]
      by_cases isCore : core = subscriber.core
      · subst isCore
        rw [setCore_self, table]
        dsimp only
        rw [if_pos isId]
        constructor
        · intro isPresent
          exact ⟨changed, rfl, sameCore, isPresent⟩
        · rintro ⟨other, isOther, _, isPresent⟩
          cases isOther
          exact isPresent
      · rw [setCore_of_ne isCore, before, found]
        constructor
        · rintro ⟨other, isOther, otherCore, _⟩
          cases isOther
          exact absurd otherCore.symm isCore
        · rintro ⟨other, isOther, otherCore, _⟩
          cases isOther
          exact absurd (otherCore.symm.trans sameCore) isCore
    · rw [if_neg isSelf, ← before]
      by_cases isCore : core = subscriber.core
      · subst isCore
        rw [setCore_self, table]
        dsimp only
        rw [if_neg fun same => isSelf (isId.symm.trans same)]
      · rw [setCore_of_ne isCore]

/-- A subscriber that moves on while its queue stays as it is. -/
theorem tabled_move {i : Nat} {subscriber : Subscriber P} (tabled : Tabled hub)
    (found : hub.subscribers[i]? = some subscriber) (changed : Subscriber P)
    (sameCore : changed.core = subscriber.core)
    (sameId : changed.id = subscriber.id) (same : present changed = present subscriber) :
    Tabled { hub with subscribers := hub.subscribers.set i changed } := by
  have isId := tabled.ids i subscriber found
  have after : Tabled { hub.setCore subscriber.core (hub.cores subscriber.core) with
      subscribers := hub.subscribers.set i changed } := by
    apply tabled_set tabled found changed sameCore sameId
    funext other
    split
    · rename_i isSelf
      rw [← isSelf, isId, same, Bool.eq_iff_iff, tabled.entries]
      constructor
      · rintro ⟨record, atI, _, isPresent⟩
        rw [found] at atI
        cases atI
        exact isPresent
      · intro isPresent
        exact ⟨subscriber, found, rfl, isPresent⟩
    · rfl
  rw [setCore_unchanged] at after
  exact after

theorem tabled_step (bounded : Bounded hub) (tabled : Tabled hub)
    (transition : Transition hub event next) : Tabled next := by
  cases transition with
  | same => exact tabled
  | publish free located =>
      exact tabled_congr (located_tabled located bounded tabled) rfl rfl fun _ => rfl
  | requestKeyframe free located =>
      exact tabled_congr (located_tabled located bounded tabled) rfl rfl fun _ => rfl
  | @subscribe url options middle created free limit located pos =>
      have after := located_tabled located bounded tabled
      refine ⟨?_, fun j other atJ => ?_, fun core id => ?_⟩
      · show middle.nextSubscriber + 1 = (middle.subscribers ++ [_]).length
        rw [List.length_append, after.number]
        rfl
      · change (middle.subscribers ++ [_])[j]? = some other at atJ
        rw [Records.find_concat] at atJ
        split at atJ
        · rename_i isNew
          cases atJ
          exact after.number.trans isNew
        · exact after.ids j other atJ
      · show keeps (middle.cores core) id = true <->
          Exists fun other => (middle.subscribers ++ [_])[id]? = some other ∧ _
        rw [after.entries, Records.find_concat]
        by_cases isNew : middle.subscribers.length = id
        · rw [if_pos isNew, List.getElem?_eq_none (by omega)]
          constructor
          · rintro ⟨other, impossible, _⟩
            cases impossible
          · rintro ⟨other, isOther, _, isPresent⟩
            cases isOther
            cases isPresent
        · rw [if_neg isNew]
  | enterSubscriber found joining => exact tabled_set tabled found _ rfl rfl (keeps_insert _ _ _)
  | reject found joining _ =>
      exact tabled_move tabled found _ rfl rfl (by simp [present, joining])
  | @rejectIdle i subscriber found joining _ =>
      have after := tabled_move tabled found { subscriber with phase := .rejected } rfl rfl
        (by simp [present, joining])
      exact tabled_congr after rfl rfl fun _ => rfl
  | @deliver i action subscriber entry frame rest found isEntry =>
      refine tabled_congr tabled rfl rfl (setCore_congr keeps ?_)
      rw [keeps_insert]
      funext other
      split
      · rename_i isSelf
        subst isSelf
        unfold keeps
        rw [isEntry]
        rfl
      · rfl
  | @depart i action subscriber _ found =>
      have after := tabled_set tabled found { subscriber with phase := .left } rfl rfl
        (keeps_leaveSubscriber _ _)
      exact tabled_congr after rfl rfl fun _ => rfl
  | closeSubscriber found opened =>
      exact tabled_move tabled found _ rfl rfl (by simp [present, opened])
  | @leaveSubscriber i subscriber found leaving =>
      have after := tabled_set tabled found { subscriber with phase := .left } rfl rfl
        (keeps_leaveSubscriber _ _)
      exact tabled_congr after rfl rfl fun _ => rfl
  | dropSubscriber found _ => exact tabled_move tabled found _ rfl rfl rfl
  | pushFrame frame found opened live =>
      exact tabled_congr tabled rfl rfl (setCore_congr keeps (keeps_offer _ frame))
  | enterPublisher | takeKeyframeRequests | leavePublisher | noteRequest =>
      exact tabled_congr tabled rfl rfl (setCore_congr keeps rfl)
  | closePublisher | hear | reapLook | reapHit | reapMiss | holderIdle | holderBusy
  | holderRemove => exact tabled_congr tabled rfl rfl fun _ => rfl

/-! ## All states -/

/-- What holds in every state of a hub. -/
structure Sound (hub : Hub P) : Prop where
  bounded : Bounded hub
  counted : Counted hub
  tabled : Tabled hub

theorem sound_withLimits (maxStreams maxSubscribersPerStream : Nat) :
    Sound (withLimits maxStreams maxSubscribersPerStream : Hub P) := by
  refine ⟨⟨fun url core found => ?_, fun publisher member => ?_, fun subscriber member => ?_⟩,
    ⟨fun core => rfl, fun core closed => ?_⟩,
    ⟨rfl, fun i subscriber found => ?_, fun core id => ⟨fun kept => ?_, ?_⟩⟩⟩
  · cases found
  · cases member
  · cases member
  · cases closed
  · cases found
  · cases kept
  · rintro ⟨subscriber, found, _⟩
    cases found

theorem sound_step (sound : Sound hub) (stepped : hub.step event = some next) : Sound next :=
  have transition := step_transition stepped
  ⟨bounded_step sound.bounded transition, counted_step sound.bounded sound.counted transition,
    tabled_step sound.bounded sound.tabled transition⟩

/-- In every state of every run. -/
theorem sound_reachable {maxStreams maxSubscribersPerStream : Nat}
    (reachable : machine.Reachable (withLimits maxStreams maxSubscribersPerStream) hub) :
    Sound hub :=
  machine.run_invariant Sound (fun _ _ _ sound stepped => sound_step sound stepped)
    (sound_withLimits maxStreams maxSubscribersPerStream) reachable

/-! ## Handles and what is kept for them -/

theorem busy_of_publisher (sound : Sound hub) {publisher : Publisher}
    (member : publisher ∈ hub.publishers) (opened : publisher.phase = .opened) :
    0 < (hub.cores publisher.core).publishers := by
  rw [sound.counted.count, List.countP_pos_iff]
  exact ⟨publisher, member, by simp [counts, opened]⟩

theorem entry_of_subscriber (sound : Sound hub) {subscriber : Subscriber P}
    (member : subscriber ∈ hub.subscribers) (opened : subscriber.phase = .opened) :
    Exists fun entry =>
      KeyedList.find subscriber.id (hub.cores subscriber.core).subscribers = some entry := by
  rcases List.mem_iff_getElem?.mp member with ⟨i, found⟩
  have isId := sound.tabled.ids i subscriber found
  have kept := (sound.tabled.entries subscriber.core subscriber.id).mpr
    ⟨subscriber, by rw [isId]; exact found, rfl, by simp [present, opened]⟩
  exact Option.isSome_iff_exists.mp kept

/-- A queue that is kept is that of a subscriber which has entered. -/
theorem present_of_ne_nil (sound : Sound hub) {core : Nat}
    (some : (hub.cores core).subscribers ≠ []) :
    Exists fun subscriber => subscriber ∈ hub.subscribers ∧ subscriber.core = core ∧
      present subscriber = true := by
  rcases List.exists_mem_of_ne_nil _ some with ⟨entry, member⟩
  have kept : keeps (hub.cores core) entry.1 = true := by
    unfold keeps
    rw [KeyedList.find_isSome]
    exact List.mem_map.mpr ⟨entry, member, rfl⟩
  rcases (sound.tabled.entries core entry.1).mp kept with ⟨subscriber, found, isCore, isPresent⟩
  exact ⟨subscriber, Records.mem_of_found found, isCore, isPresent⟩

/-! ## Runs of a small hub -/

/-- The state of a small hub after some events. -/
def sample (events : List (Event String)) : Hub String := machine.after (withLimits 8 8) events

theorem sample_run (events : List (Event String))
    (runs : (machine.run (withLimits 8 8) events).isSome = true) :
    machine.run (withLimits 8 8) events = some (sample events) :=
  machine.run_after runs

theorem sample_run_on (events more : List (Event String))
    (runs : (machine.run (withLimits 8 8) events).isSome = true)
    (runsOn : (machine.run (withLimits 8 8) (events ++ more)).isSome = true) :
    machine.run (sample events) more = some (sample (events ++ more)) :=
  machine.run_after_append runs runsOn

end Hub
end Stream
end DyunGu

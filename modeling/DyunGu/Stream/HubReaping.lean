import Mathlib.Data.List.Perm.Subperm
import DyunGu.Stream.HubRegistry

namespace DyunGu
namespace Stream
namespace Hub

/-!
# What the registry keeps

An entry of the registry is made by the first call that needs it and taken out
by an attempt to remove it.  In every state an entry is in use, or an attempt
to remove it is under way, or nobody has entered its core yet and somebody is
expected there.
-/

variable {P : Type} {hub next middle : Hub P} {event : Event P} {url other : String}
  {core place : Nat}

/-! ## One URL for each core -/

structure Homed (hub : Hub P) : Prop where
  ordered : KeyedList.Ordered hub.registry
  distinct : forall url other core, KeyedList.find url hub.registry = some core ->
    KeyedList.find other hub.registry = some core -> url = other
  publishers : forall url core, KeyedList.find url hub.registry = some core ->
    forall publisher, publisher ∈ hub.publishers -> publisher.core = core -> publisher.url = url
  subscribers : forall url core, KeyedList.find url hub.registry = some core ->
    forall subscriber, subscriber ∈ hub.subscribers -> subscriber.core = core ->
      subscriber.url = url

theorem homed_congr (homed : Homed hub) (registry : next.registry = hub.registry)
    (publishers : next.publishers = hub.publishers)
    (subscribers : next.subscribers = hub.subscribers) : Homed next := by
  refine ⟨?_, ?_, ?_, ?_⟩
  · rw [registry]
    exact homed.ordered
  · rw [registry]
    exact homed.distinct
  · rw [registry, publishers]
    exact homed.publishers
  · rw [registry, subscribers]
    exact homed.subscribers

/-- The entries after a URL was looked up. -/
theorem located_entry (located : Located hub other middle place)
    (found : KeyedList.find url middle.registry = some core) :
    KeyedList.find url hub.registry = some core ∨
      url = other ∧ core = hub.created ∧ middle = hub.create other ∧ place = hub.created := by
  cases located with
  | existing core _ => exact Or.inl found
  | new absent =>
      change KeyedList.find url (KeyedList.insert other hub.created hub.registry) = _ at found
      rw [KeyedList.find_insert] at found
      split at found
      · rename_i same
        cases found
        exact Or.inr ⟨same.symm, rfl, rfl, rfl⟩
      · exact Or.inl found

theorem located_homed (located : Located hub other middle place) (bounded : Bounded hub)
    (homed : Homed hub) : Homed middle := by
  have same := located_same located
  refine ⟨?_, fun url later core found foundToo => ?_, fun url core found => ?_,
    fun url core found => ?_⟩
  · cases located with
    | existing core _ => exact homed.ordered
    | new absent => exact KeyedList.ordered_insert homed.ordered other hub.created
  · rcases located_entry located found with before | ⟨isUrl, isCore, _⟩
    · rcases located_entry located foundToo with beforeToo | ⟨_, isCoreToo, _⟩
      · exact homed.distinct url later core before beforeToo
      · have within := bounded.registry url core before
        omega
    · rcases located_entry located foundToo with beforeToo | ⟨isUrlToo, _⟩
      · have within := bounded.registry later core beforeToo
        omega
      · exact isUrl.trans isUrlToo.symm
  · rw [same.1]
    rcases located_entry located found with before | ⟨_, isCore, _⟩
    · exact homed.publishers url core before
    · intro publisher member atCore
      have within := bounded.publishers publisher member
      omega
  · rw [same.2.1]
    rcases located_entry located found with before | ⟨_, isCore, _⟩
    · exact homed.subscribers url core before
    · intro subscriber member atCore
      have within := bounded.subscribers subscriber member
      omega

theorem homed_step (transition : Transition hub event next) (bounded : Bounded hub)
    (homed : Homed hub) : Homed next := by
  cases transition with
  | publish _ located =>
      have after := located_homed located bounded homed
      have fetched := located_found located
      refine ⟨after.ordered, after.distinct, fun url core found => ?_, after.subscribers⟩
      refine Records.forall_concat (after.publishers url core found) fun atCore => ?_
      cases atCore
      exact after.distinct _ _ _ fetched found
  | subscribe _ _ located _ =>
      have after := located_homed located bounded homed
      have fetched := located_found located
      refine ⟨after.ordered, after.distinct, after.publishers, fun url core found => ?_⟩
      refine Records.forall_concat (after.subscribers url core found) fun atCore => ?_
      cases atCore
      exact after.distinct _ _ _ fetched found
  | requestKeyframe _ located =>
      exact homed_congr (located_homed located bounded homed) rfl rfl rfl
  | @enterPublisher i publisher found _ | @closePublisher i publisher found _
  | @leavePublisher i publisher found _ =>
      refine ⟨homed.ordered, homed.distinct, fun url core isEntry => ?_, homed.subscribers⟩
      have before := homed.publishers url core isEntry
      have replaced := before publisher (Records.mem_of_found found)
      exact Records.forall_set before replaced
  | @enterSubscriber i subscriber found _ | @reject i subscriber found _ _
  | @rejectIdle i subscriber found _ _ | @depart i _ subscriber _ found
  | @closeSubscriber i subscriber found _ | @leaveSubscriber i subscriber found _
  | @dropSubscriber i subscriber found _ =>
      refine ⟨homed.ordered, homed.distinct, homed.publishers, fun url core isEntry => ?_⟩
      have before := homed.subscribers url core isEntry
      have replaced := before subscriber (Records.mem_of_found found)
      exact Records.forall_set before replaced
  | @holderRemove holder held idle =>
      have before {url : String} {core : Nat}
          (found : KeyedList.find url (KeyedList.erase holder.url hub.registry) = some core) :
          KeyedList.find url hub.registry = some core := by
        rw [KeyedList.find_erase] at found
        split at found
        · cases found
        · exact found
      exact ⟨KeyedList.ordered_erase homed.ordered _,
        fun url other core found foundToo =>
          homed.distinct url other core (before found) (before foundToo),
        fun url core found => homed.publishers url core (before found),
        fun url core found => homed.subscribers url core (before found)⟩
  | same | pushFrame | takeKeyframeRequests | hear | deliver | noteRequest | reapLook | reapHit
  | reapMiss | holderIdle | holderBusy => exact homed_congr homed rfl rfl rfl

/-! ## Why an entry is there -/

/-- Nobody has ever entered the core. -/
structure Untouched (hub : Hub P) (core : Nat) : Prop where
  publishers : forall publisher, publisher ∈ hub.publishers -> publisher.core = core ->
    publisher.phase = .joining
  subscribers : forall subscriber, subscriber ∈ hub.subscribers -> subscriber.core = core ->
    subscriber.phase = .joining ∨ subscriber.phase = .rejected

/-- Somebody is about to enter the core, or a keyframe is asked for there. -/
inductive Awaited (hub : Hub P) (core : Nat) : Prop where
  | publisher (publisher : Publisher) (member : publisher ∈ hub.publishers)
      (isCore : publisher.core = core) (joining : publisher.phase = .joining) : Awaited hub core
  | subscriber (subscriber : Subscriber P) (member : subscriber ∈ hub.subscribers)
      (isCore : subscriber.core = core) (joining : subscriber.phase = .joining) : Awaited hub core
  | request (request : Request) (member : request ∈ hub.requests) (isCore : request.core = core)
      (fresh : request.noted = false) : Awaited hub core
  | requested (pending : 0 < (hub.cores core).keyframeRequests) : Awaited hub core

inductive Retained (hub : Hub P) (url : String) (core : Nat) : Prop where
  | busy (busy : (hub.cores core).isIdle = false) : Retained hub url core
  | reaped (reap : Reap) (member : reap ∈ hub.reaps) (isUrl : reap.url = url)
      (isCore : reap.core = core) (active : reap.phase ≠ .ended) : Retained hub url core
  | held (holder : Holder) (held : hub.holder = some holder) (isUrl : holder.url = url)
      (isCore : holder.core = core) : Retained hub url core
  | awaited (untouched : Untouched hub core) (awaited : Awaited hub core) : Retained hub url core

/-- Nobody enters the core, and nobody who is expected there goes away. -/
structure SameAt (hub next : Hub P) (core : Nat) : Prop where
  publishers : Records.Carried (fun publisher => publisher.core = core)
    (fun publisher => publisher.phase = .joining) hub.publishers next.publishers
  subscribers : Records.Carried (fun subscriber => subscriber.core = core)
    (fun subscriber => subscriber.phase = .joining) hub.subscribers next.subscribers
  requests : forall request, request ∈ hub.requests -> request ∈ next.requests
  pending : (next.cores core).keyframeRequests = (hub.cores core).keyframeRequests

/-- A step after which the calls are the same. -/
theorem SameAt.of_calls (publishers : next.publishers = hub.publishers)
    (subscribers : next.subscribers = hub.subscribers) (requests : next.requests = hub.requests)
    (pending : (next.cores core).keyframeRequests = (hub.cores core).keyframeRequests) :
    SameAt hub next core where
  publishers := publishers ▸ .refl _
  subscribers := subscribers ▸ .refl _
  requests := requests ▸ fun _ member => member
  pending := pending

theorem SameAt.untouched (same : SameAt hub next core) (untouched : Untouched hub core) :
    Untouched next core := by
  refine ⟨fun publisher member isCore => ?_, fun subscriber member isCore => ?_⟩
  · rcases same.publishers.comes publisher member isCore with before | joining
    · exact untouched.publishers publisher before isCore
    · exact joining
  · rcases same.subscribers.comes subscriber member isCore with before | joining
    · exact untouched.subscribers subscriber before isCore
    · exact Or.inl joining

theorem SameAt.awaited (same : SameAt hub next core) (awaited : Awaited hub core) :
    Awaited next core := by
  cases awaited with
  | publisher publisher member isCore joining =>
      exact .publisher publisher (same.publishers.stays publisher member isCore) isCore joining
  | subscriber subscriber member isCore joining =>
      exact .subscriber subscriber (same.subscribers.stays subscriber member isCore) isCore joining
  | request request member isCore fresh =>
      exact .request request (same.requests request member) isCore fresh
  | requested pending =>
      apply Awaited.requested
      rw [same.pending]
      exact pending

/-- What an entry was kept for it is kept for after a step that ends no attempt
to remove it. -/
theorem Retained.keep (retained : Retained hub url core)
    (busy : (hub.cores core).isIdle = false -> (next.cores core).isIdle = false)
    (reaps : forall reap, reap ∈ hub.reaps -> reap ∈ next.reaps)
    (holder : next.holder = hub.holder)
    (same : Untouched hub core -> SameAt hub next core) : Retained next url core := by
  cases retained with
  | busy isBusy => exact .busy (busy isBusy)
  | reaped reap member isUrl isCore active =>
      exact .reaped reap (reaps reap member) isUrl isCore active
  | held before held isUrl isCore => exact .held before (holder.trans held) isUrl isCore
  | awaited untouched awaited =>
      exact .awaited ((same untouched).untouched untouched) ((same untouched).awaited awaited)

theorem busy_congr (same : next.cores core = hub.cores core) :
    (hub.cores core).isIdle = false -> (next.cores core).isIdle = false := by
  rw [same]
  exact id

theorem busy_setCore {state : StreamState P}
    (keeps : (hub.cores place).isIdle = false -> state.isIdle = false) :
    (hub.cores core).isIdle = false -> ((hub.setCore place state).cores core).isIdle = false := by
  intro busy
  by_cases isCore : core = place
  · subst isCore
    rw [setCore_self]
    exact keeps busy
  · rw [setCore_of_ne isCore]
    exact busy

theorem untouched_idle (sound : Sound hub) (untouched : Untouched hub core) :
    (hub.cores core).isIdle = true := by
  rw [isIdle_iff]
  constructor
  · rw [sound.counted.count, List.countP_eq_zero]
    intro publisher member
    by_cases isCore : publisher.core = core
    · simp [counts, untouched.publishers publisher member isCore]
    · simp [counts, isCore]
  · by_contra some
    rcases present_of_ne_nil sound some with ⟨subscriber, member, isCore, isPresent⟩
    rcases untouched.subscribers subscriber member isCore with phase | phase <;>
      simp [present, phase] at isPresent

/-! ## Steps -/

theorem located_state (located : Located hub other middle place) (within : core < hub.created) :
    middle.cores core = hub.cores core := by
  cases located with
  | existing core _ => rfl
  | new absent => exact Function.update_of_ne (Nat.ne_of_lt within) _ _

theorem located_calls (located : Located hub other middle place) :
    middle.requests = hub.requests ∧ middle.reaps = hub.reaps ∧
      middle.maxSubscribersPerStream = hub.maxSubscribersPerStream := by
  cases located <;> exact ⟨rfl, rfl, rfl⟩

/-- After a URL was looked up its core is one that was kept before, or a new
one that nobody has entered. -/
theorem located_retained (located : Located hub other middle place) (bounded : Bounded hub)
    (entries : forall url core, KeyedList.find url hub.registry = some core ->
      Retained hub url core)
    (found : KeyedList.find url middle.registry = some core) :
    Retained middle url core ∨ core = place ∧ Untouched middle core := by
  have same := located_same located
  have calls := located_calls located
  rcases located_entry located found with before | ⟨_, isCore, _, isPlace⟩
  · left
    have state := located_state located (bounded.registry url core before)
    refine (entries url core before).keep (busy_congr state) ?_ same.2.2
      fun _ => .of_calls same.1 same.2.1 calls.1 (by rw [state])
    rw [calls.2.1]
    exact fun _ member => member
  · right
    refine ⟨isCore.trans isPlace.symm, ?_, ?_⟩
    · rw [same.1]
      intro publisher member atCore
      have within := bounded.publishers publisher member
      omega
    · rw [same.2.1]
      intro subscriber member atCore
      have within := bounded.subscribers subscriber member
      omega

/-- A call that has looked up a URL is expected at its core. -/
theorem expected_retained (located : Located hub other middle place) (bounded : Bounded hub)
    (entries : forall url core, KeyedList.find url hub.registry = some core ->
      Retained hub url core)
    (registry : next.registry = middle.registry) (cores : next.cores = middle.cores)
    (reaps : next.reaps = middle.reaps) (holder : next.holder = middle.holder)
    (same : forall core, SameAt middle next core) (awaited : Awaited next place) :
    forall url core, KeyedList.find url next.registry = some core -> Retained next url core := by
  intro url core found
  rw [registry] at found
  rcases located_retained located bounded entries found with retained | ⟨rfl, untouched⟩
  · refine retained.keep (busy_congr (congrFun cores core)) ?_ holder fun _ => same core
    rw [reaps]
    exact fun _ member => member
  · exact .awaited ((same core).untouched untouched) awaited

theorem busy_of_ne_nil {state : StreamState P} (some : state.subscribers ≠ []) :
    state.isIdle = false := by
  rw [← Bool.not_eq_true, isIdle_iff]
  exact fun idle => some idle.2

theorem insert_ne_nil {Value : Type} (id : Nat) (value : Value) (entries : List (Nat × Value)) :
    KeyedList.insert id value entries ≠ [] := by
  intro empty
  have found := KeyedList.find_insert id id value entries
  rw [empty, if_pos rfl] at found
  cases found

theorem pending_setCore {state : StreamState P}
    (same : state.keyframeRequests = (hub.cores place).keyframeRequests) (core : Nat) :
    ((hub.setCore place state).cores core).keyframeRequests =
      (hub.cores core).keyframeRequests :=
  setCore_congr StreamState.keyframeRequests same core

/-- The lock of the registry is taken, or passes on. -/
theorem Retained.release (retained : Retained hub url core) (cores : next.cores = hub.cores)
    (reaps : next.reaps = hub.reaps) (publishers : next.publishers = hub.publishers)
    (subscribers : next.subscribers = hub.subscribers) (requests : next.requests = hub.requests)
    (held : forall holder, hub.holder = some holder -> holder.url = url -> holder.core = core ->
      Retained next url core) : Retained next url core := by
  cases retained with
  | busy busy => exact .busy (busy_congr (congrFun cores core) busy)
  | reaped reap member isUrl isCore active =>
      refine .reaped reap ?_ isUrl isCore active
      rw [reaps]
      exact member
  | held holder isHeld isUrl isCore => exact held holder isHeld isUrl isCore
  | awaited untouched awaited =>
      have same : SameAt hub next core :=
        .of_calls publishers subscribers requests (by rw [cores])
      exact .awaited (same.untouched untouched) (same.awaited awaited)

/-- One attempt to remove a core goes on, and the registry stays locked if it was. -/
theorem Retained.attempt {i : Nat} {reap : Reap} {phase : ReapPhase} {holder : Option Holder}
    (retained : Retained hub url core) (found : hub.reaps[i]? = some reap)
    (locked : forall before, hub.holder = some before -> holder = some before)
    (attempted : reap.url = url -> reap.core = core -> reap.phase ≠ .ended ->
      Retained { hub.setReap i reap phase with holder := holder } url core) :
    Retained { hub.setReap i reap phase with holder := holder } url core := by
  cases retained with
  | busy busy => exact .busy busy
  | reaped other member isUrl isCore active =>
      by_cases same : other = reap
      · subst same
        exact attempted isUrl isCore active
      · exact .reaped other (Records.mem_set_of_ne found _ member same) isUrl isCore active
  | held before isHeld isUrl isCore => exact .held before (locked before isHeld) isUrl isCore
  | awaited untouched awaited =>
      have same : SameAt hub { hub.setReap i reap phase with holder := holder } core :=
        ⟨.refl _, .refl _, fun _ member => member, rfl⟩
      exact .awaited (same.untouched untouched) (same.awaited awaited)

theorem look_retained {i : Nat} {reap : Reap} (found : hub.reaps[i]? = some reap)
    (retained : Retained hub url core) :
    Retained (hub.setReap i reap (if (hub.cores reap.core).isIdle then .entering else .ended))
      url core := by
  refine retained.attempt found (fun _ isHeld => isHeld) fun isUrl isCore _ => ?_
  by_cases idle : (hub.cores reap.core).isIdle = true
  · rw [if_pos idle]
    exact .reaped { reap with phase := .entering } (Records.mem_set_self found _) isUrl isCore
      ReapPhase.noConfusion
  · apply Retained.busy
    rw [← isCore]
    exact Bool.eq_false_iff.mpr idle

theorem hit_retained {i : Nat} {reap : Reap} (found : hub.reaps[i]? = some reap)
    (free : hub.holder = none) (retained : Retained hub url core) :
    Retained { hub.setReap i reap .ended with holder := some ⟨reap.url, reap.core, false⟩ }
      url core := by
  refine retained.attempt found (fun before isHeld => ?_) fun isUrl isCore _ => ?_
  · rw [free] at isHeld
    cases isHeld
  · exact .held _ rfl isUrl isCore

theorem miss_retained {i : Nat} {reap : Reap} (found : hub.reaps[i]? = some reap)
    (miss : KeyedList.find reap.url hub.registry ≠ some reap.core)
    (isEntry : KeyedList.find url hub.registry = some core) (retained : Retained hub url core) :
    Retained (hub.setReap i reap .ended) url core := by
  refine retained.attempt found (fun _ isHeld => isHeld) fun isUrl isCore _ => ?_
  rw [isUrl, isCore] at miss
  exact absurd isEntry miss

theorem note_retained {i : Nat} {request : Request} (found : hub.requests[i]? = some request)
    (retained : Retained hub url core) :
    Retained { hub.setCore request.core (hub.cores request.core).requestKeyframe with
      requests := hub.requests.set i { request with noted := true } } url core := by
  cases retained with
  | busy busy => exact .busy (busy_setCore (fun before => before) busy)
  | reaped reap member isUrl isCore active => exact .reaped reap member isUrl isCore active
  | held holder held isUrl isCore => exact .held holder held isUrl isCore
  | awaited untouched awaited =>
      refine .awaited ⟨untouched.publishers, untouched.subscribers⟩ ?_
      by_cases isCore : request.core = core
      · apply Awaited.requested
        subst isCore
        show 0 < ((hub.setCore request.core _).cores request.core).keyframeRequests
        rw [setCore_self]
        exact Nat.succ_pos _
      · cases awaited with
        | publisher publisher member atCore joining =>
            exact .publisher publisher member atCore joining
        | subscriber subscriber member atCore joining =>
            exact .subscriber subscriber member atCore joining
        | request pending member atCore isFresh =>
            refine .request pending (Records.mem_set_of_ne found _ member ?_) atCore isFresh
            rintro rfl
            exact isCore atCore
        | requested pending =>
            apply Awaited.requested
            show 0 < ((hub.setCore request.core _).cores core).keyframeRequests
            rw [setCore_of_ne (Ne.symm isCore)]
            exact pending

/-- An attempt to remove the core was just made. -/
theorem made_retained (hub : Hub P) (isUrl : other = url) :
    Retained (hub.tryReap other core) url core :=
  .reaped ⟨other, core, .looking⟩ (List.mem_append_right _ List.mem_cons_self) isUrl rfl
    ReapPhase.noConfusion

theorem Untouched.publisher_apart {i : Nat} {publisher : Publisher}
    (untouched : Untouched hub core) (found : hub.publishers[i]? = some publisher)
    (joined : publisher.phase ≠ .joining) : publisher.core ≠ core := fun isCore =>
  joined (untouched.publishers publisher (Records.mem_of_found found) isCore)

theorem Untouched.subscriber_apart {i : Nat} {subscriber : Subscriber P}
    (untouched : Untouched hub core) (found : hub.subscribers[i]? = some subscriber)
    (joined : subscriber.phase = .opened ∨ subscriber.phase = .left) :
    subscriber.core ≠ core := by
  intro isCore
  have phase := untouched.subscribers subscriber (Records.mem_of_found found) isCore
  rcases joined with joined | joined <;> rw [joined] at phase <;>
    rcases phase with phase | phase <;> cases phase

theorem enterPublisher_retained {i : Nat} {publisher : Publisher}
    (found : hub.publishers[i]? = some publisher) (retained : Retained hub url core) :
    Retained ((hub.setCore publisher.core
      (hub.cores publisher.core).enterPublisher).setPublisher i publisher .opened) url core := by
  by_cases isCore : publisher.core = core
  · apply Retained.busy
    subst isCore
    show ((hub.setCore publisher.core _).cores publisher.core).isIdle = false
    rw [setCore_self]
    simp [StreamState.isIdle, StreamState.enterPublisher]
  · exact retained.keep (busy_congr (setCore_of_ne (Ne.symm isCore) _)) (fun _ member => member) rfl
      fun _ => ⟨.set found isCore isCore, .refl _, fun _ member => member,
        pending_setCore (by rfl) core⟩

theorem leavePublisher_retained {i : Nat} {publisher : Publisher}
    (found : hub.publishers[i]? = some publisher)
    (isUrl : publisher.core = core -> publisher.url = url) (retained : Retained hub url core) :
    Retained (((hub.setCore publisher.core (hub.cores publisher.core).leavePublisher).setPublisher
      i publisher .left).tryReap publisher.url publisher.core) url core := by
  by_cases isCore : publisher.core = core
  · subst isCore
    exact made_retained _ (isUrl rfl)
  · exact retained.keep (busy_congr (setCore_of_ne (Ne.symm isCore) _))
      (fun _ member => List.mem_append_left _ member) rfl
      fun _ => ⟨.set found isCore isCore, .refl _, fun _ member => member,
        pending_setCore (by rfl) core⟩

theorem enterSubscriber_retained {i : Nat} {subscriber : Subscriber P}
    (found : hub.subscribers[i]? = some subscriber) (retained : Retained hub url core) :
    Retained ((hub.setCore subscriber.core { hub.cores subscriber.core with
      subscribers := KeyedList.insert subscriber.id subscriber.fresh
        (hub.cores subscriber.core).subscribers }).setSubscriber i subscriber .opened)
      url core := by
  by_cases isCore : subscriber.core = core
  · apply Retained.busy
    subst isCore
    show ((hub.setCore subscriber.core _).cores subscriber.core).isIdle = false
    rw [setCore_self]
    exact busy_of_ne_nil (insert_ne_nil _ _ _)
  · exact retained.keep (busy_congr (setCore_of_ne (Ne.symm isCore) _)) (fun _ member => member) rfl
      fun _ => ⟨.refl _, .set found isCore isCore, fun _ member => member,
        pending_setCore (by rfl) core⟩

/-- A core that nobody has entered has room. -/
theorem reject_retained {i : Nat} {subscriber : Subscriber P} (sound : Sound hub)
    (found : hub.subscribers[i]? = some subscriber)
    (room : 0 < hub.maxSubscribersPerStream)
    (full : hub.maxSubscribersPerStream <= (hub.cores subscriber.core).subscribers.length)
    (retained : Retained hub url core) :
    Retained (hub.setSubscriber i subscriber .rejected) url core := by
  refine retained.keep (fun busy => busy) (fun _ member => member) rfl fun untouched => ?_
  have apart : subscriber.core ≠ core := by
    intro isCore
    rw [isCore, (isIdle_iff.mp (untouched_idle sound untouched)).2] at full
    exact Nat.lt_irrefl 0 (Nat.lt_of_lt_of_le room full)
  exact ⟨.refl _, .set found apart apart, fun _ member => member, rfl⟩

theorem tryReap_retained (retained : Retained hub url core) (other : String) (place : Nat) :
    Retained (hub.tryReap other place) url core :=
  retained.keep (fun busy => busy) (fun _ member => List.mem_append_left _ member) rfl
    fun _ => ⟨.refl _, .refl _, fun _ member => member, rfl⟩

theorem hear_retained (retained : Retained hub url core) (id : Nat)
    (answer : Option (Received P)) : Retained (hub.hear id answer) url core :=
  retained.keep (fun busy => busy) (fun _ member => member) rfl
    fun _ => ⟨.refl _, .refl _, fun _ member => member, rfl⟩

theorem leaveSubscriber_retained {i : Nat} {subscriber : Subscriber P}
    (found : hub.subscribers[i]? = some subscriber)
    (isUrl : subscriber.core = core -> subscriber.url = url) (retained : Retained hub url core) :
    Retained (((hub.setCore subscriber.core
      ((hub.cores subscriber.core).leaveSubscriber subscriber.id)).setSubscriber
        i subscriber .left).tryReap subscriber.url subscriber.core) url core := by
  by_cases isCore : subscriber.core = core
  · subst isCore
    exact made_retained _ (isUrl rfl)
  · exact retained.keep (busy_congr (setCore_of_ne (Ne.symm isCore) _))
      (fun _ member => List.mem_append_left _ member) rfl
      fun _ => ⟨.refl _, .set found isCore isCore, fun _ member => member,
        pending_setCore (by rfl) core⟩

/-- A subscriber that has joined may change on its stream. -/
theorem changeSubscriber_retained {i : Nat} {subscriber changed : Subscriber P}
    (found : hub.subscribers[i]? = some subscriber)
    (joined : subscriber.phase = .opened ∨ subscriber.phase = .left)
    (sameCore : changed.core = subscriber.core) (retained : Retained hub url core) :
    Retained { hub with subscribers := hub.subscribers.set i changed } url core := by
  refine retained.keep (fun busy => busy) (fun _ member => member) rfl fun untouched => ?_
  have apart := untouched.subscriber_apart found joined
  have apartAfter : changed.core ≠ core := by
    rw [sameCore]
    exact apart
  exact ⟨.refl _, .set found apart apartAfter, fun _ member => member, rfl⟩

theorem retained_step (transition : Transition hub event next) (sound : Sound hub)
    (homed : Homed hub)
    (limit : forall subscriber, subscriber ∈ hub.subscribers -> 0 < hub.maxSubscribersPerStream)
    (entries : forall url core, KeyedList.find url hub.registry = some core ->
      Retained hub url core) :
    forall url core, KeyedList.find url next.registry = some core -> Retained next url core := by
  cases transition with
  | same => exact entries
  | publish free located =>
      refine expected_retained located sound.bounded entries (by rfl) (by rfl) (by rfl) (by rfl)
        ?_ ?_
      · exact fun core => ⟨.concat rfl, .refl _, fun _ member => member, rfl⟩
      · exact .publisher _ (List.mem_append_right _ List.mem_cons_self) rfl rfl
  | subscribe free _ located pos =>
      refine expected_retained located sound.bounded entries (by rfl) (by rfl) (by rfl) (by rfl)
        ?_ ?_
      · exact fun core => ⟨.refl _, .concat rfl, fun _ member => member, rfl⟩
      · exact .subscriber _ (List.mem_append_right _ List.mem_cons_self) rfl rfl
  | requestKeyframe free located =>
      refine expected_retained located sound.bounded entries (by rfl) (by rfl) (by rfl) (by rfl)
        ?_ ?_
      · exact fun core => ⟨.refl _, .refl _, fun _ member => List.mem_append_left _ member, rfl⟩
      · exact .request _ (List.mem_append_right _ List.mem_cons_self) rfl rfl
  | enterPublisher found joining =>
      exact fun url core isEntry => enterPublisher_retained found (entries url core isEntry)
  | @pushFrame i publisher frame found opened live =>
      intro url core isEntry
      refine (entries url core isEntry).keep (busy_setCore fun busy => ?_) (fun _ member => member)
        rfl fun _ => ⟨.refl _, .refl _, fun _ member => member, pending_setCore (by rfl) core⟩
      simp only [StreamState.isIdle, StreamState.offer, List.isEmpty_map] at busy ⊢
      exact busy
  | @takeKeyframeRequests i publisher found joined =>
      intro url core isEntry
      refine (entries url core isEntry).keep (busy_setCore fun busy => busy)
        (fun _ member => member) rfl fun untouched => ⟨.refl _, .refl _, fun _ member => member, ?_⟩
      rw [setCore_of_ne (untouched.publisher_apart found joined).symm]
  | @closePublisher i publisher found opened =>
      intro url core isEntry
      refine (entries url core isEntry).keep (fun busy => busy) (fun _ member => member) rfl
        fun untouched => ?_
      have joined : publisher.phase ≠ .joining := by
        rw [opened]
        exact PublisherPhase.noConfusion
      have apart := untouched.publisher_apart found joined
      exact ⟨.set found apart apart, .refl _, fun _ member => member, rfl⟩
  | leavePublisher found leaving =>
      exact fun url core isEntry => leavePublisher_retained found
        (homed.publishers url core isEntry _ (Records.mem_of_found found))
        (entries url core isEntry)
  | enterSubscriber found joining =>
      exact fun url core isEntry => enterSubscriber_retained found (entries url core isEntry)
  | reject found joining full =>
      exact fun url core isEntry => reject_retained sound found
        (limit _ (Records.mem_of_found found)) full (entries url core isEntry)
  | rejectIdle found joining full =>
      exact fun url core isEntry => tryReap_retained (reject_retained sound found
        (limit _ (Records.mem_of_found found)) full (entries url core isEntry)) _ _
  | hear answer found =>
      exact fun url core isEntry => hear_retained (entries url core isEntry) _ _
  | @deliver i action subscriber entry frame rest found isQueue =>
      intro url core isEntry
      refine (entries url core isEntry).keep (busy_setCore fun _ => ?_) (fun _ member => member)
        rfl fun _ => ⟨.refl _, .refl _, fun _ member => member, pending_setCore (by rfl) core⟩
      exact busy_of_ne_nil (insert_ne_nil _ _ _)
  | depart answer found =>
      exact fun url core isEntry => hear_retained (leaveSubscriber_retained found
        (homed.subscribers url core isEntry _ (Records.mem_of_found found))
        (entries url core isEntry)) _ _
  | leaveSubscriber found _ =>
      exact fun url core isEntry => leaveSubscriber_retained found
        (homed.subscribers url core isEntry _ (Records.mem_of_found found))
        (entries url core isEntry)
  | closeSubscriber found opened =>
      exact fun url core isEntry => changeSubscriber_retained found (Or.inl opened) rfl
        (entries url core isEntry)
  | dropSubscriber found was =>
      exact fun url core isEntry => changeSubscriber_retained found was rfl
        (entries url core isEntry)
  | noteRequest found fresh =>
      exact fun url core isEntry => note_retained found (entries url core isEntry)
  | reapLook found looking =>
      exact fun url core isEntry => look_retained found (entries url core isEntry)
  | reapHit found entering free hit =>
      exact fun url core isEntry => hit_retained found free (entries url core isEntry)
  | reapMiss found entering miss =>
      exact fun url core isEntry => miss_retained found miss isEntry (entries url core isEntry)
  | @holderIdle holder held looking idle =>
      refine fun url core isEntry => (entries url core isEntry).release rfl rfl rfl rfl rfl
        fun before isHeld isUrl isCore => .held { before with idle := true } ?_ isUrl isCore
      rw [held] at isHeld
      cases isHeld
      rfl
  | @holderBusy holder held looking busy =>
      refine fun url core isEntry => (entries url core isEntry).release rfl rfl rfl rfl rfl
        fun before isHeld isUrl isCore => .busy ?_
      rw [held] at isHeld
      cases isHeld
      rw [← isCore]
      exact busy
  | @holderRemove holder held idle =>
      intro url core isEntry
      change KeyedList.find url (KeyedList.erase holder.url hub.registry) = _ at isEntry
      rw [KeyedList.find_erase] at isEntry
      split at isEntry
      · cases isEntry
      · rename_i distinct
        refine (entries url core isEntry).release rfl rfl rfl rfl rfl
          fun before isHeld isUrl _ => ?_
        rw [held] at isHeld
        cases isHeld
        exact absurd isUrl distinct

/-! ## Runs -/

/-- The handle of an open subscriber is dropped. -/
def abandons (hub : Hub P) : Event P -> Bool
  | .subscriber i .drop =>
      match hub.subscribers[i]? with
      | some subscriber => decide (subscriber.phase = .opened)
      | none => false
  | _ => false

/-- Handles of subscribers are closed before they are dropped. -/
def Closes (hub : Hub P) (event : Event P) : Prop := hub.abandons event = false

instance (hub : Hub P) (event : Event P) : Decidable (Closes hub event) :=
  inferInstanceAs (Decidable (_ = _))

structure Reaping (hub : Hub P) : Prop where
  homed : Homed hub
  limit : forall subscriber, subscriber ∈ hub.subscribers -> 0 < hub.maxSubscribersPerStream
  dropped : forall subscriber, subscriber ∈ hub.subscribers -> subscriber.dropped = true ->
    subscriber.phase = .left
  entries : forall url core, KeyedList.find url hub.registry = some core -> Retained hub url core

theorem limit_step (transition : Transition hub event next)
    (limit : forall subscriber, subscriber ∈ hub.subscribers ->
      0 < hub.maxSubscribersPerStream) :
    forall subscriber, subscriber ∈ next.subscribers -> 0 < next.maxSubscribersPerStream := by
  cases transition with
  | publish _ located | requestKeyframe _ located =>
      show forall subscriber, subscriber ∈ Hub.subscribers _ -> 0 < Hub.maxSubscribersPerStream _
      rw [(located_same located).2.1, (located_calls located).2.2]
      exact limit
  | subscribe _ positive located _ =>
      show forall subscriber, subscriber ∈ Hub.subscribers _ ++ [_] ->
        0 < Hub.maxSubscribersPerStream _
      rw [(located_calls located).2.2]
      exact fun _ _ => positive
  | enterSubscriber found _ | reject found _ _ | rejectIdle found _ _ | depart _ found
  | closeSubscriber found _ | leaveSubscriber found _ | dropSubscriber found _ =>
      exact Records.forall_set limit (limit _ (Records.mem_of_found found))
  | same | enterPublisher | pushFrame | takeKeyframeRequests | closePublisher | leavePublisher
  | hear | deliver | noteRequest | reapLook | reapHit | reapMiss | holderIdle | holderBusy
  | holderRemove => exact limit

theorem dropped_step (transition : Transition hub event next) (closes : Closes hub event)
    (dropped : forall subscriber, subscriber ∈ hub.subscribers -> subscriber.dropped = true ->
      subscriber.phase = .left) :
    forall subscriber, subscriber ∈ next.subscribers -> subscriber.dropped = true ->
      subscriber.phase = .left := by
  have kept {subscriber : Subscriber P} {i : Nat} (found : hub.subscribers[i]? = some subscriber)
      (phase : subscriber.phase ≠ .left) (after : SubscriberPhase) :
      subscriber.dropped = true -> after = .left := fun isDropped =>
    absurd (dropped subscriber (Records.mem_of_found found) isDropped) phase
  cases transition with
  | publish _ located | requestKeyframe _ located =>
      rw [show Hub.subscribers _ = _ from (located_same located).2.1]
      exact dropped
  | subscribe _ _ located _ =>
      refine Records.forall_concat ?_ fun impossible => ?_
      · rw [(located_same located).2.1]
        exact dropped
      · cases impossible
  | enterSubscriber found phase | reject found phase _ | rejectIdle found phase _
  | closeSubscriber found phase =>
      refine Records.forall_set dropped (kept found ?_ _)
      rw [phase]
      exact SubscriberPhase.noConfusion
  | depart _ _ | leaveSubscriber _ _ => exact Records.forall_set dropped fun _ => rfl
  | dropSubscriber found was =>
      refine Records.forall_set dropped fun _ => was.resolve_left ?_
      unfold Closes abandons at closes
      dsimp only at closes
      rw [found] at closes
      exact of_decide_eq_false closes
  | same | enterPublisher | pushFrame | takeKeyframeRequests | closePublisher | leavePublisher
  | hear | deliver | noteRequest | reapLook | reapHit | reapMiss | holderIdle | holderBusy
  | holderRemove => exact dropped

theorem reaping_step (sound : Sound hub) (reaping : Reaping hub) (closes : Closes hub event)
    (stepped : hub.step event = some next) : Reaping next :=
  have transition := step_transition stepped
  ⟨homed_step transition sound.bounded reaping.homed, limit_step transition reaping.limit,
    dropped_step transition closes reaping.dropped,
    retained_step transition sound reaping.homed reaping.limit reaping.entries⟩

theorem reaping_withLimits (maxStreams maxSubscribersPerStream : Nat) :
    Reaping (withLimits maxStreams maxSubscribersPerStream : Hub P) := by
  refine ⟨⟨List.Pairwise.nil, fun url other core found => ?_, fun url core found => ?_,
    fun url core found => ?_⟩, fun subscriber member => ?_, fun subscriber member => ?_,
    fun url core found => ?_⟩
  · cases found
  · cases found
  · cases found
  · cases member
  · cases member
  · cases found

/-- No call is under way, but for receives that wait. -/
structure Quiet (hub : Hub P) : Prop where
  publishers : forall publisher, publisher ∈ hub.publishers ->
    publisher.phase ≠ .joining ∧ publisher.phase ≠ .leaving
  subscribers : forall subscriber, subscriber ∈ hub.subscribers ->
    subscriber.phase ≠ .joining ∧ subscriber.phase ≠ .leaving
  requests : forall request, request ∈ hub.requests -> request.noted = true
  reaps : forall reap, reap ∈ hub.reaps -> reap.phase = .ended
  holder : hub.holder = none

def openPublisher (publisher : Publisher) : Bool := decide (publisher.phase = .opened)

/-- The handle is there and not closed. -/
def openSubscriber (subscriber : Subscriber P) : Bool :=
  decide (subscriber.phase = .opened) && !subscriber.dropped

/-- A keyframe is asked for at a core without handles. -/
def requestedOnly (hub : Hub P) (core : Nat) : Bool :=
  (hub.cores core).isIdle && decide (0 < (hub.cores core).keyframeRequests)

/-- Why an entry is there when no call is under way. -/
inductive Justified (hub : Hub P) (url : String) (core : Nat) : Prop where
  | publisher (publisher : Publisher) (member : publisher ∈ hub.publishers)
      (isOpen : openPublisher publisher = true) (isUrl : publisher.url = url)
      (isCore : publisher.core = core) : Justified hub url core
  | subscriber (subscriber : Subscriber P) (member : subscriber ∈ hub.subscribers)
      (isOpen : openSubscriber subscriber = true) (isUrl : subscriber.url = url)
      (isCore : subscriber.core = core) : Justified hub url core
  | requested (untouched : Untouched hub core) (requested : hub.requestedOnly core = true) :
      Justified hub url core

theorem justified_of_busy (sound : Sound hub) (reaping : Reaping hub) (quiet : Quiet hub)
    (found : KeyedList.find url hub.registry = some core)
    (busy : (hub.cores core).isIdle = false) : Justified hub url core := by
  by_cases some : 0 < (hub.cores core).publishers
  · rw [sound.counted.count, List.countP_pos_iff] at some
    rcases some with ⟨publisher, member, isCounted⟩
    simp only [counts, Bool.and_eq_true, decide_eq_true_eq, Bool.or_eq_true] at isCounted
    have phase := isCounted.2.resolve_right (quiet.publishers publisher member).2
    exact .publisher publisher member (decide_eq_true phase)
      (reaping.homed.publishers url core found publisher member isCounted.1) isCounted.1
  · have table : (hub.cores core).subscribers ≠ [] := by
      intro none
      rw [← Bool.not_eq_true, isIdle_iff] at busy
      exact busy ⟨Nat.eq_zero_of_not_pos some, none⟩
    rcases present_of_ne_nil sound table with ⟨subscriber, member, isCore, isPresent⟩
    simp only [present, Bool.or_eq_true, decide_eq_true_eq] at isPresent
    have phase := isPresent.resolve_right (quiet.subscribers subscriber member).2
    have there : subscriber.dropped = false := by
      rw [← Bool.not_eq_true]
      intro isDropped
      have left := reaping.dropped subscriber member isDropped
      rw [phase] at left
      cases left
    refine .subscriber subscriber member ?_
      (reaping.homed.subscribers url core found subscriber member isCore) isCore
    simp [openSubscriber, phase, there]

theorem justified (sound : Sound hub) (reaping : Reaping hub) (quiet : Quiet hub)
    (found : KeyedList.find url hub.registry = some core) : Justified hub url core := by
  cases reaping.entries url core found with
  | busy busy => exact justified_of_busy sound reaping quiet found busy
  | reaped reap member _ _ active => exact absurd (quiet.reaps reap member) active
  | held holder held _ _ =>
      rw [quiet.holder] at held
      cases held
  | awaited untouched awaited =>
      cases awaited with
      | publisher publisher member _ joining =>
          exact absurd joining (quiet.publishers publisher member).1
      | subscriber subscriber member _ joining =>
          exact absurd joining (quiet.subscribers subscriber member).1
      | request request member _ fresh =>
          rw [quiet.requests request member] at fresh
          cases fresh
      | requested pending =>
          refine .requested untouched ?_
          unfold requestedOnly
          rw [untouched_idle sound untouched, Bool.true_and]
          exact decide_eq_true pending

/-- The cores of all open handles. -/
def handles (hub : Hub P) : List Nat :=
  (hub.publishers.filter openPublisher).map Publisher.core ++
    (hub.subscribers.filter openSubscriber).map Subscriber.core

theorem entries_le (sound : Sound hub) (reaping : Reaping hub) (quiet : Quiet hub) :
    hub.registry.length <= hub.publishers.countP openPublisher +
      hub.subscribers.countP openSubscriber +
      hub.registry.countP (fun entry => hub.requestedOnly entry.2) := by
  let others := hub.registry.filter fun entry => !hub.requestedOnly entry.2
  have distinct : (others.map Prod.snd).Nodup :=
    (KeyedList.nodup_values reaping.homed.ordered reaping.homed.distinct).sublist
      (List.filter_sublist.map Prod.snd)
  have covered : others.map Prod.snd ⊆ hub.handles := by
    intro core member
    rcases List.mem_map.mp member with ⟨entry, isOther, rfl⟩
    rcases List.mem_filter.mp isOther with ⟨isEntry, unrequested⟩
    cases justified sound reaping quiet (KeyedList.find_of_mem reaping.homed.ordered isEntry) with
    | publisher publisher isMember isOpen _ isCore =>
        exact List.mem_append_left _ (List.mem_map.mpr
          ⟨publisher, List.mem_filter.mpr ⟨isMember, isOpen⟩, isCore⟩)
    | subscriber subscriber isMember isOpen _ isCore =>
        exact List.mem_append_right _ (List.mem_map.mpr
          ⟨subscriber, List.mem_filter.mpr ⟨isMember, isOpen⟩, isCore⟩)
    | requested _ requested =>
        rw [requested] at unrequested
        cases unrequested
  have short := (distinct.subperm covered).length_le
  have parts := List.length_eq_length_filter_add (l := hub.registry)
    fun entry => hub.requestedOnly entry.2
  rw [List.length_map] at short
  rw [handles, List.length_append, List.length_map, List.length_map] at short
  rw [List.countP_eq_length_filter, List.countP_eq_length_filter, List.countP_eq_length_filter]
  change (hub.registry.filter fun entry => !hub.requestedOnly entry.2).length <= _ at short
  omega

/-- In every run in which handles of subscribers are closed before they are
dropped: when no call is under way, an entry of the registry has an open
handle, or a keyframe is asked for at a core that nobody has entered.  So there
are no more entries than open handles and such requests. -/
theorem registry_justified {maxStreams maxSubscribersPerStream : Nat} {events : List (Event P)}
    (closes : machine.Meets Closes (withLimits maxStreams maxSubscribersPerStream) events)
    (reached : machine.run (withLimits maxStreams maxSubscribersPerStream) events = some hub)
    (quiet : Quiet hub) :
    (forall url core, KeyedList.find url hub.registry = some core -> Justified hub url core) ∧
    hub.registry.length <= hub.publishers.countP openPublisher +
      hub.subscribers.countP openSubscriber +
      hub.registry.countP (fun entry => hub.requestedOnly entry.2) := by
  have both : Sound hub ∧ Reaping hub :=
    machine.run_invariant_of_meets (fun hub => Sound hub ∧ Reaping hub)
      (fun _ _ _ both closes stepped =>
        ⟨sound_step both.1 stepped, reaping_step both.1 both.2 closes stepped⟩)
      ⟨sound_withLimits _ _, reaping_withLimits _ _⟩ closes reached
  exact ⟨fun url core found => justified both.1 both.2 quiet found,
    entries_le both.1 both.2 quiet⟩

/-- One subscriber is left of a stream, and a keyframe is asked for at a URL
without one. -/
def lingering : List (Event String) :=
  [.publish "mock://cam", .publisher 0 .enter,
    .subscribe "mock://cam" ⟨1, .dropDroppableFirst, ⟨true, true⟩⟩, .subscriber 0 .enter,
    .publisher 0 .close, .publisher 0 .leave, .reap 0 .look,
    .requestKeyframe "mock://late", .noteRequest 0]

theorem lingering_justified :
    (sample lingering).registry = [("mock://cam", 0), ("mock://late", 1)] ∧
      Justified (sample lingering) "mock://cam" 0 ∧
      (sample lingering).registry.length <= 0 + 1 + 1 := by
  have closes : machine.Meets Closes (withLimits 8 8) lingering := by decide
  have quiet : Quiet (sample lingering) :=
    ⟨by decide, by decide, by decide, by decide, rfl⟩
  have both := registry_justified closes (sample_run lingering rfl) quiet
  exact ⟨rfl, both.1 "mock://cam" 0 rfl, both.2⟩

/-- A keyframe is asked for where there is no stream yet. -/
def requesting : List (Event String) := [.requestKeyframe "mock://late", .noteRequest 0]

/-- The entry that a request makes has no handle. -/
theorem requesting_unhandled :
    ¬ forall hub : Hub String, machine.Reachable (withLimits 8 8) hub -> Quiet hub ->
      (forall url core, KeyedList.find url hub.registry = some core ->
        (Exists fun publisher => publisher ∈ hub.publishers ∧ openPublisher publisher = true ∧
          publisher.url = url) ∨
        (Exists fun subscriber => subscriber ∈ hub.subscribers ∧
          openSubscriber subscriber = true ∧ subscriber.url = url)) ∧
      hub.registry.length <= hub.publishers.countP openPublisher +
        hub.subscribers.countP openSubscriber := by
  intro all
  have quiet : Quiet (sample requesting) :=
    ⟨by decide, by decide, by decide, by decide, rfl⟩
  have none := (all (sample requesting) ⟨requesting, sample_run requesting rfl⟩ quiet).2
  exact absurd none (by decide)

end Hub
end Stream
end DyunGu

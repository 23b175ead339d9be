import DyunGu.Stream.HubCounts

namespace DyunGu
namespace Stream
namespace Hub

/-!
# Who is attached to the core in the registry

A call that opens a handle fetches the core under one lock and enters it under
another.  An attempt to remove an idle core looks at the core while it holds
the registry, but a call that has fetched the core before is not seen there.
When no core is removed under such a call, all open handles of a URL meet at
the core in the registry.
-/

variable {P : Type} {hub next : Hub P} {event : Event P} {url : String} {core : Nat}

/-! ## The registry -/

theorem located_found {middle : Hub P} (located : Located hub url middle core) :
    KeyedList.find url middle.registry = some core := by
  cases located with
  | existing core found => exact found
  | new absent =>
      show KeyedList.find url (KeyedList.insert url hub.created hub.registry) = _
      rw [KeyedList.find_insert, if_pos rfl]

theorem located_keeps {middle : Hub P} {other : String} {place : Nat}
    (located : Located hub other middle place)
    (found : KeyedList.find url hub.registry = some core) :
    KeyedList.find url middle.registry = some core := by
  cases located with
  | existing core _ => exact found
  | new absent =>
      show KeyedList.find url (KeyedList.insert other hub.created hub.registry) = _
      rw [KeyedList.find_insert, if_neg]
      · exact found
      · intro same
        rw [same, found] at absent
        cases absent

theorem located_same {middle : Hub P} {place : Nat} (located : Located hub url middle place) :
    middle.publishers = hub.publishers ∧ middle.subscribers = hub.subscribers ∧
      middle.holder = hub.holder := by
  cases located <;> exact ⟨rfl, rfl, rfl⟩

/-- A core is taken out of the registry only by the attempt that holds it and
has found the core idle. -/
theorem registry_step (transition : Transition hub event next)
    (found : KeyedList.find url hub.registry = some core) :
    KeyedList.find url next.registry = some core ∨
      Exists fun holder => hub.holder = some holder ∧ holder.idle = true ∧ holder.url = url := by
  cases transition with
  | publish _ located | subscribe _ _ located _ | requestKeyframe _ located =>
      have keeps := located_keeps located found
      exact Or.inl keeps
  | @holderRemove holder held idle =>
      by_cases isUrl : holder.url = url
      · exact Or.inr ⟨holder, held, idle, isUrl⟩
      · left
        show KeyedList.find url (KeyedList.erase holder.url hub.registry) = _
        rw [KeyedList.find_erase, if_neg isUrl]
        exact found
  | same | enterPublisher | pushFrame | takeKeyframeRequests | closePublisher | leavePublisher
  | enterSubscriber | reject | rejectIdle | hear | deliver | depart | closeSubscriber
  | leaveSubscriber | dropSubscriber | noteRequest | reapLook | reapHit | reapMiss | holderIdle
  | holderBusy => exact Or.inl found

/-! ## Vacant cores -/

/-- Nobody has entered the core, and nobody is about to. -/
structure Vacant (hub : Hub P) (core : Nat) : Prop where
  idle : (hub.cores core).isIdle = true
  publishers : forall publisher, publisher ∈ hub.publishers ->
    publisher.core = core -> publisher.phase ≠ .joining
  subscribers : forall subscriber, subscriber ∈ hub.subscribers ->
    subscriber.core = core -> subscriber.phase ≠ .joining

theorem isIdle_iff {state : StreamState P} :
    state.isIdle = true <-> state.publishers = 0 ∧ state.subscribers = [] := by
  simp [StreamState.isIdle]

theorem idle_setCore {place : Nat} {state : StreamState P}
    (keeps : place = core -> (hub.cores place).isIdle = true -> state.isIdle = true)
    (idle : (hub.cores core).isIdle = true) :
    ((hub.setCore place state).cores core).isIdle = true := by
  by_cases isCore : core = place
  · subst isCore
    rw [setCore_self]
    exact keeps rfl idle
  · rw [setCore_of_ne isCore]
    exact idle

/-- While the registry is held, a vacant core stays vacant. -/
theorem vacant_step (transition : Transition hub event next) (held : hub.holder ≠ none)
    (vacant : Vacant hub core) : Vacant next core := by
  have publishers := vacant.publishers
  have subscribers := vacant.subscribers
  have idle := vacant.idle
  cases transition with
  | publish free _ | subscribe free _ _ _ | requestKeyframe free _ => exact absurd free held
  | @enterPublisher i publisher found joining =>
      refine ⟨idle_setCore (fun isCore => ?_) idle, Records.forall_set publishers ?_, subscribers⟩
      · exact absurd joining (publishers publisher (Records.mem_of_found found) isCore)
      · intro _ impossible
        cases impossible
  | pushFrame frame found opened live =>
      refine ⟨idle_setCore (fun _ isIdle => ?_) idle, publishers, subscribers⟩
      rw [isIdle_iff] at isIdle ⊢
      refine ⟨isIdle.1, ?_⟩
      show (hub.cores _).subscribers.map _ = []
      rw [isIdle.2, List.map_nil]
  | takeKeyframeRequests | noteRequest =>
      exact ⟨idle_setCore (fun _ isIdle => isIdle) idle, publishers, subscribers⟩
  | closePublisher found opened =>
      refine ⟨idle, Records.forall_set publishers ?_, subscribers⟩
      intro _ impossible
      cases impossible
  | leavePublisher found leaving =>
      refine ⟨idle_setCore (fun _ isIdle => ?_) idle, Records.forall_set publishers ?_, subscribers⟩
      · rw [isIdle_iff] at isIdle ⊢
        refine ⟨?_, isIdle.2⟩
        show (hub.cores _).publishers - 1 = 0
        rw [isIdle.1]
      · intro _ impossible
        cases impossible
  | @enterSubscriber i subscriber found joining =>
      refine ⟨idle_setCore (fun isCore => ?_) idle, publishers, Records.forall_set subscribers ?_⟩
      · exact absurd joining (subscribers subscriber (Records.mem_of_found found) isCore)
      · intro _ impossible
        cases impossible
  | reject found joining _ | rejectIdle found joining _ | closeSubscriber found joining =>
      refine ⟨idle, publishers, Records.forall_set subscribers ?_⟩
      intro _ impossible
      cases impossible
  | @deliver i action subscriber entry frame rest found isEntry =>
      refine ⟨idle_setCore (fun _ isIdle => ?_) idle, publishers, subscribers⟩
      rw [(isIdle_iff.mp isIdle).2] at isEntry
      cases isEntry
  | depart _ found | leaveSubscriber found _ =>
      refine ⟨idle_setCore (fun _ isIdle => ?_) idle, publishers, Records.forall_set subscribers ?_⟩
      · rw [isIdle_iff] at isIdle ⊢
        refine ⟨isIdle.1, ?_⟩
        show KeyedList.erase _ (hub.cores _).subscribers = []
        rw [isIdle.2]
        rfl
      · intro _ impossible
        cases impossible
  | @dropSubscriber i subscriber found _ =>
      have before := subscribers subscriber (Records.mem_of_found found)
      exact ⟨idle, publishers, Records.forall_set subscribers before⟩
  | same | hear | reapLook | reapHit | reapMiss | holderIdle | holderBusy | holderRemove =>
      exact ⟨idle, publishers, subscribers⟩

/-- A handle whose core is in use: it has the core, or it is open. -/
def PublisherSeated (publisher : Publisher) : Prop :=
  publisher.phase = .joining ∨ publisher.phase = .opened

def SubscriberSeated (subscriber : Subscriber P) : Prop :=
  subscriber.phase = .joining ∨ subscriber.phase = .opened

theorem not_vacant_of_publisher (sound : Sound hub) {publisher : Publisher}
    (member : publisher ∈ hub.publishers) (seated : PublisherSeated publisher) :
    ¬ Vacant hub publisher.core := by
  intro vacant
  rcases seated with joining | opened
  · exact vacant.publishers publisher member rfl joining
  · have busy := busy_of_publisher sound member opened
    rw [(isIdle_iff.mp vacant.idle).1] at busy
    exact Nat.lt_irrefl 0 busy

theorem not_vacant_of_subscriber (sound : Sound hub) {subscriber : Subscriber P}
    (member : subscriber ∈ hub.subscribers) (seated : SubscriberSeated subscriber) :
    ¬ Vacant hub subscriber.core := by
  intro vacant
  rcases seated with joining | opened
  · exact vacant.subscribers subscriber member rfl joining
  · rcases entry_of_subscriber sound member opened with ⟨entry, isEntry⟩
    rw [(isIdle_iff.mp vacant.idle).2] at isEntry
    cases isEntry

/-! ## Attached handles -/

/-- Some call has the core and has not entered it. -/
def joiningAt (hub : Hub P) (core : Nat) : Bool :=
  (hub.publishers.any fun publisher =>
    decide (publisher.core = core) && decide (publisher.phase = .joining)) ||
  hub.subscribers.any fun subscriber =>
    decide (subscriber.core = core) && decide (subscriber.phase = .joining)

/-- The attempt that holds the registry finds the core idle while a call has it
and has not entered it. -/
def hurried (hub : Hub P) : Event P -> Bool
  | .holder .look =>
      match hub.holder with
      | some holder => (hub.cores holder.core).isIdle && hub.joiningAt holder.core
      | none => false
  | _ => false

def Unhurried (hub : Hub P) (event : Event P) : Prop := hub.hurried event = false

instance (hub : Hub P) (event : Event P) : Decidable (Unhurried hub event) :=
  inferInstanceAs (Decidable (_ = _))

theorem vacant_of_idle (idle : (hub.cores core).isIdle = true)
    (calm : hub.joiningAt core = false) : Vacant hub core := by
  unfold joiningAt at calm
  rw [Bool.or_eq_false_iff, List.any_eq_false, List.any_eq_false] at calm
  refine ⟨idle, fun publisher member isCore joining => ?_,
    fun subscriber member isCore joining => ?_⟩
  · exact calm.1 publisher member (by simp [isCore, joining])
  · exact calm.2 subscriber member (by simp [isCore, joining])

structure Attached (hub : Hub P) : Prop where
  publishers : forall publisher, publisher ∈ hub.publishers -> PublisherSeated publisher ->
    KeyedList.find publisher.url hub.registry = some publisher.core
  subscribers : forall subscriber, subscriber ∈ hub.subscribers -> SubscriberSeated subscriber ->
    KeyedList.find subscriber.url hub.registry = some subscriber.core
  holder : forall holder, hub.holder = some holder ->
    KeyedList.find holder.url hub.registry = some holder.core ∧
      (holder.idle = true -> Vacant hub holder.core)

/-- A publisher that has its core had it before, or it has just fetched it. -/
theorem publisher_origin (transition : Transition hub event next) :
    forall publisher, publisher ∈ next.publishers -> PublisherSeated publisher ->
      (Exists fun before => before ∈ hub.publishers ∧ PublisherSeated before ∧
        before.url = publisher.url ∧ before.core = publisher.core) ∨
      KeyedList.find publisher.url next.registry = some publisher.core := by
  have old (publisher : Publisher) (member : publisher ∈ hub.publishers)
      (seated : PublisherSeated publisher) :
      (Exists fun before => before ∈ hub.publishers ∧ PublisherSeated before ∧
        before.url = publisher.url ∧ before.core = publisher.core) ∨
      KeyedList.find publisher.url next.registry = some publisher.core :=
    Or.inl ⟨publisher, member, seated, rfl, rfl⟩
  cases transition with
  | publish free located =>
      apply Records.forall_concat
      · rw [(located_same located).1]
        exact old
      · intro _
        have fetched := located_found located
        exact Or.inr fetched
  | subscribe _ _ located _ | requestKeyframe _ located =>
      rw [show Hub.publishers _ = _ from (located_same located).1]
      exact old
  | @enterPublisher i publisher found joining =>
      apply Records.forall_set old
      intro _
      exact Or.inl ⟨publisher, Records.mem_of_found found, Or.inl joining, rfl, rfl⟩
  | closePublisher found _ | leavePublisher found _ =>
      apply Records.forall_set old
      rintro (impossible | impossible) <;> cases impossible
  | same | pushFrame | takeKeyframeRequests | enterSubscriber | reject | rejectIdle | hear
  | deliver | depart | closeSubscriber | leaveSubscriber | dropSubscriber | noteRequest | reapLook
  | reapHit | reapMiss | holderIdle | holderBusy | holderRemove => exact old

theorem subscriber_origin (transition : Transition hub event next) :
    forall subscriber, subscriber ∈ next.subscribers -> SubscriberSeated subscriber ->
      (Exists fun before => before ∈ hub.subscribers ∧ SubscriberSeated before ∧
        before.url = subscriber.url ∧ before.core = subscriber.core) ∨
      KeyedList.find subscriber.url next.registry = some subscriber.core := by
  have old (subscriber : Subscriber P) (member : subscriber ∈ hub.subscribers)
      (seated : SubscriberSeated subscriber) :
      (Exists fun before => before ∈ hub.subscribers ∧ SubscriberSeated before ∧
        before.url = subscriber.url ∧ before.core = subscriber.core) ∨
      KeyedList.find subscriber.url next.registry = some subscriber.core :=
    Or.inl ⟨subscriber, member, seated, rfl, rfl⟩
  cases transition with
  | subscribe _ _ located _ =>
      apply Records.forall_concat
      · rw [(located_same located).2.1]
        exact old
      · intro _
        have fetched := located_found located
        exact Or.inr fetched
  | publish _ located | requestKeyframe _ located =>
      rw [show Hub.subscribers _ = _ from (located_same located).2.1]
      exact old
  | @enterSubscriber i subscriber found joining =>
      apply Records.forall_set old
      intro _
      exact Or.inl ⟨subscriber, Records.mem_of_found found, Or.inl joining, rfl, rfl⟩
  | reject _ _ _ | rejectIdle _ _ _ | depart _ _ | closeSubscriber _ _ | leaveSubscriber _ _ =>
      apply Records.forall_set old
      rintro (impossible | impossible) <;> cases impossible
  | @dropSubscriber i subscriber found _ =>
      apply Records.forall_set old
      intro seated
      exact Or.inl ⟨subscriber, Records.mem_of_found found, seated, rfl, rfl⟩
  | same | enterPublisher | pushFrame | takeKeyframeRequests | closePublisher | leavePublisher
  | hear | deliver | noteRequest | reapLook | reapHit | reapMiss | holderIdle | holderBusy
  | holderRemove => exact old

/-- Nobody who has a core loses its entry. -/
theorem entry_stays (transition : Transition hub event next) (attached : Attached hub)
    (found : KeyedList.find url hub.registry = some core) (occupied : ¬ Vacant hub core) :
    KeyedList.find url next.registry = some core := by
  rcases registry_step transition found with stays | ⟨holder, held, idle, isUrl⟩
  · exact stays
  · exfalso
    rcases attached.holder holder held with ⟨isEntry, vacant⟩
    rw [isUrl, found] at isEntry
    cases isEntry
    exact occupied (vacant idle)

theorem holder_step (transition : Transition hub event next) (attached : Attached hub)
    (calm : Unhurried hub event) :
    forall holder, next.holder = some holder ->
      KeyedList.find holder.url next.registry = some holder.core ∧
        (holder.idle = true -> Vacant next holder.core) := by
  intro holder holds
  have still (same : next.holder = hub.holder) (entries : next.registry = hub.registry) :
      KeyedList.find holder.url next.registry = some holder.core ∧
        (holder.idle = true -> Vacant next holder.core) := by
    have held := same.symm.trans holds
    rcases attached.holder holder held with ⟨found, vacant⟩
    rw [entries]
    refine ⟨found, fun idle => vacant_step transition ?_ (vacant idle)⟩
    rw [held]
    exact Option.some_ne_none holder
  cases transition with
  | publish free located | subscribe free _ located _ | requestKeyframe free located =>
      have none := (located_same located).2.2.trans free
      rw [none] at holds
      cases holds
  | reapHit found entering free hit =>
      cases holds
      refine ⟨hit, fun impossible => ?_⟩
      cases impossible
  | @holderIdle before held looking idle =>
      cases holds
      refine ⟨(attached.holder before held).1, fun _ => ?_⟩
      have vacant : Vacant hub before.core := by
        apply vacant_of_idle idle
        unfold Unhurried hurried at calm
        rw [held] at calm
        dsimp only at calm
        rw [idle, Bool.true_and] at calm
        exact calm
      exact ⟨vacant.idle, vacant.publishers, vacant.subscribers⟩
  | holderBusy | holderRemove => cases holds
  | same | enterPublisher | pushFrame | takeKeyframeRequests | closePublisher | leavePublisher
  | enterSubscriber | reject | rejectIdle | hear | deliver | depart | closeSubscriber
  | leaveSubscriber | dropSubscriber | noteRequest | reapLook | reapMiss => exact still rfl rfl

theorem attached_step (sound : Sound hub) (attached : Attached hub) (calm : Unhurried hub event)
    (stepped : hub.step event = some next) : Attached next := by
  have transition := step_transition stepped
  refine ⟨fun publisher member seated => ?_, fun subscriber member seated => ?_,
    holder_step transition attached calm⟩
  · rcases publisher_origin transition publisher member seated with
      ⟨before, was, wasSeated, sameUrl, sameCore⟩ | fetched
    · rw [← sameUrl, ← sameCore]
      exact entry_stays transition attached (attached.publishers before was wasSeated)
        (not_vacant_of_publisher sound was wasSeated)
    · exact fetched
  · rcases subscriber_origin transition subscriber member seated with
      ⟨before, was, wasSeated, sameUrl, sameCore⟩ | fetched
    · rw [← sameUrl, ← sameCore]
      exact entry_stays transition attached (attached.subscribers before was wasSeated)
        (not_vacant_of_subscriber sound was wasSeated)
    · exact fetched

theorem attached_withLimits (maxStreams maxSubscribersPerStream : Nat) :
    Attached (withLimits maxStreams maxSubscribersPerStream : Hub P) := by
  refine ⟨fun publisher member => ?_, fun subscriber member => ?_, fun holder held => ?_⟩
  · cases member
  · cases member
  · cases held

/-! ## Agreement -/

/-- Open handles are attached to the core that the registry has under their
URL. -/
structure Agrees (hub : Hub P) : Prop where
  publishers : forall publisher, publisher ∈ hub.publishers -> publisher.phase = .opened ->
    KeyedList.find publisher.url hub.registry = some publisher.core
  subscribers : forall subscriber, subscriber ∈ hub.subscribers -> subscriber.phase = .opened ->
    KeyedList.find subscriber.url hub.registry = some subscriber.core

/-- The frame is noted for the subscriber and offered to its queue. -/
structure Offered (hub next : Hub P) (subscriber : Subscriber P) (frame : MediaFrame P) :
    Prop where
  noted : (next.logs subscriber.id).published = (hub.logs subscriber.id).published ++ [frame]
  queued : Exists fun entry =>
    KeyedList.find subscriber.id (hub.cores subscriber.core).subscribers = some entry ∧
      KeyedList.find subscriber.id (next.cores subscriber.core).subscribers =
        some (entry.offered frame)

/-- What an open publisher publishes is taken, and offered to every open
subscriber of its URL. -/
def Delivers (hub : Hub P) : Prop :=
  forall (i : Nat) (publisher : Publisher) (frame : MediaFrame P),
    hub.publishers[i]? = some publisher -> publisher.phase = .opened ->
    Exists fun next => hub.step (.publisher i (.pushFrame frame)) = some next ∧
      forall subscriber, subscriber ∈ hub.subscribers -> subscriber.phase = .opened ->
        subscriber.url = publisher.url -> Offered hub next subscriber frame

theorem step_pushFrame {i : Nat} {publisher : Publisher}
    (found : hub.publishers[i]? = some publisher) (opened : publisher.phase = .opened)
    (live : (hub.cores publisher.core).publisherClosed = false) (frame : MediaFrame P) :
    hub.step (.publisher i (.pushFrame frame)) =
      some ((hub.setCore publisher.core ((hub.cores publisher.core).offer frame)).notePublished
        publisher.core frame) := by
  have accepted : (hub.cores publisher.core).pushFrame (decide (publisher.phase ≠ .opened)) frame =
      ((hub.cores publisher.core).offer frame,
        ((hub.cores publisher.core).pushFrame false frame).2) := by
    simp [StreamState.pushFrame, opened, live]
  have taken : ((hub.cores publisher.core).pushFrame false frame).2 ≠ .rejectedClosed := by
    simp only [StreamState.pushFrame, live, Bool.or_self, Bool.false_eq_true, if_false]
    split <;> exact DispatchResult.noConfusion
  show hub.publishers[i]?.bind _ = _
  rw [found, Option.bind_some]
  dsimp only [stepPublisher]
  rw [if_neg (by rw [opened]; exact PublisherPhase.noConfusion), accepted]
  split
  · rename_i state same
    exact absurd (congrArg Prod.snd same) taken
  · rename_i same
    cases same
    rfl

theorem delivers_of_agrees (sound : Sound hub) (agrees : Agrees hub) : Delivers hub := by
  intro i publisher frame found opened
  have member := Records.mem_of_found found
  have live : (hub.cores publisher.core).publisherClosed = false := by
    rw [← Bool.not_eq_true]
    intro closed
    have busy := busy_of_publisher sound member opened
    rw [sound.counted.closed publisher.core closed] at busy
    exact Nat.lt_irrefl 0 busy
  refine ⟨_, step_pushFrame found opened live frame, ?_⟩
  intro subscriber isMember isOpen sameUrl
  have sameCore : subscriber.core = publisher.core := by
    have ofSubscriber := agrees.subscribers subscriber isMember isOpen
    rw [sameUrl, agrees.publishers publisher member opened] at ofSubscriber
    exact (Option.some.inj ofSubscriber).symm
  rcases List.mem_iff_getElem?.mp isMember with ⟨j, atJ⟩
  rcases entry_of_subscriber sound isMember isOpen with ⟨entry, isEntry⟩
  refine ⟨?_, entry, isEntry, ?_⟩
  · rw [sound.tabled.ids j subscriber atJ]
    unfold notePublished
    dsimp only
    rw [show (hub.setCore _ _).subscribers = hub.subscribers from rfl, atJ]
    dsimp only
    rw [if_pos ⟨sameCore, by rw [isOpen]; exact SubscriberPhase.noConfusion⟩]
    rfl
  · show KeyedList.find subscriber.id ((hub.setCore publisher.core _).cores
      subscriber.core).subscribers = _
    rw [sameCore, setCore_self]
    show KeyedList.find subscriber.id ((hub.cores publisher.core).subscribers.map _) = _
    rw [KeyedList.find_map (fun entry : SubscriberQueue P => entry.offered frame), ← sameCore,
      isEntry]
    rfl

/-- In every run in which no core is found idle under a call that has it: in
every state the open handles of a URL are attached to the core in the registry,
and a frame published there reaches every open subscriber. -/
theorem agreement {maxStreams maxSubscribersPerStream : Nat} {events : List (Event P)}
    (calm : machine.Meets Unhurried (withLimits maxStreams maxSubscribersPerStream) events)
    (reached : machine.run (withLimits maxStreams maxSubscribersPerStream) events = some hub) :
    Agrees hub ∧ Delivers hub := by
  have both : Sound hub ∧ Attached hub :=
    machine.run_invariant_of_meets (fun hub => Sound hub ∧ Attached hub)
      (fun _ _ _ both calm stepped =>
        ⟨sound_step both.1 stepped, attached_step both.1 both.2 calm stepped⟩)
      ⟨sound_withLimits _ _, attached_withLimits _ _⟩ calm reached
  have agrees : Agrees hub :=
    ⟨fun publisher member opened => both.2.publishers publisher member (Or.inr opened),
      fun subscriber member opened => both.2.subscribers subscriber member (Or.inr opened)⟩
  exact ⟨agrees, delivers_of_agrees both.1 agrees⟩

/-- A publisher and a subscriber that come after one another. -/
def handover : List (Event String) :=
  [.publish "mock://cam", .publisher 0 .enter, .publisher 0 .close, .publisher 0 .leave,
    .reap 0 .look, .reap 0 .enter, .holder .look, .holder .remove,
    .publish "mock://cam", .publisher 1 .enter,
    .subscribe "mock://cam" ⟨1, .dropDroppableFirst, ⟨true, true⟩⟩, .subscriber 0 .enter]

theorem handover_agrees :
    Agrees (sample handover) ∧
      Delivers (sample handover) ∧
      (sample handover).registry = [("mock://cam", 1)] := by
  have calm : machine.Meets Unhurried (withLimits 8 8) handover := by decide
  have both := agreement calm (sample_run handover rfl)
  exact ⟨both.1, both.2, rfl⟩

/-- The second publisher has fetched the core when the first one leaves, and
enters it after it was removed. -/
def missed : List (Event String) :=
  [.publish "mock://cam", .publisher 0 .enter, .publish "mock://cam",
    .publisher 0 .close, .publisher 0 .leave,
    .reap 0 .look, .reap 0 .enter, .holder .look, .holder .remove, .publisher 1 .enter,
    .subscribe "mock://cam" ⟨1, .dropDroppableFirst, ⟨true, true⟩⟩, .subscriber 0 .enter]

/-- An open publisher and an open subscriber of one URL that never meet. -/
theorem missed_disagrees :
    ¬ forall hub : Hub String, machine.Reachable (withLimits 8 8) hub ->
      Agrees hub ∧ Delivers hub := by
  intro all
  have agrees := (all (sample missed) ⟨missed, sample_run missed rfl⟩).1
  have attached := agrees.publishers ⟨"mock://cam", 0, .opened⟩ (by decide) rfl
  exact absurd attached (by decide)

end Hub
end Stream
end DyunGu

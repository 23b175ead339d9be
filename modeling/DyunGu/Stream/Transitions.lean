import DyunGu.Stream.Hub

namespace DyunGu
namespace Stream
namespace Hub

/-!
# What one step of the hub can do

Every step is one of the transitions below.  Invariants of the hub are proved
by cases on them.
-/

variable {P : Type}

/-- The core of a URL, which is there or is created. -/
inductive Located (hub : Hub P) (url : String) : Hub P -> Nat -> Prop where
  | existing (core : Nat) (found : KeyedList.find url hub.registry = some core) :
      Located hub url hub core
  | new (absent : KeyedList.find url hub.registry = none) :
      Located hub url (hub.create url) hub.created

theorem getOrCreate_located {hub middle : Hub P} {url : String} {core : Nat}
    (result : hub.getOrCreateStream url = .ok (middle, core)) : Located hub url middle core := by
  unfold getOrCreateStream at result
  split at result
  · rename_i existing found
    cases result
    exact .existing core found
  · rename_i absent
    split at result
    · cases result
    · cases result
      exact .new absent

inductive Transition (hub : Hub P) : Event P -> Hub P -> Prop where
  | same (event : Event P) : Transition hub event hub
  | publish {url : String} {middle : Hub P} {core : Nat} (free : hub.holder = none)
      (located : Located hub url middle core) :
      Transition hub (.publish url)
        { middle with publishers := middle.publishers ++ [⟨url, core, .joining⟩] }
  | enterPublisher {i : Nat} {publisher : Publisher}
      (found : hub.publishers[i]? = some publisher) (joining : publisher.phase = .joining) :
      Transition hub (.publisher i .enter)
        ((hub.setCore publisher.core (hub.cores publisher.core).enterPublisher).setPublisher
          i publisher .opened)
  | pushFrame {i : Nat} {publisher : Publisher} (frame : MediaFrame P)
      (found : hub.publishers[i]? = some publisher) (opened : publisher.phase = .opened)
      (live : (hub.cores publisher.core).publisherClosed = false) :
      Transition hub (.publisher i (.pushFrame frame))
        ((hub.setCore publisher.core ((hub.cores publisher.core).offer frame)).notePublished
          publisher.core frame)
  | takeKeyframeRequests {i : Nat} {publisher : Publisher}
      (found : hub.publishers[i]? = some publisher) (joined : publisher.phase ≠ .joining) :
      Transition hub (.publisher i .takeKeyframeRequests)
        (hub.setCore publisher.core (hub.cores publisher.core).takeKeyframeRequests.1)
  | closePublisher {i : Nat} {publisher : Publisher}
      (found : hub.publishers[i]? = some publisher) (opened : publisher.phase = .opened) :
      Transition hub (.publisher i .close) (hub.setPublisher i publisher .leaving)
  | leavePublisher {i : Nat} {publisher : Publisher}
      (found : hub.publishers[i]? = some publisher) (leaving : publisher.phase = .leaving) :
      Transition hub (.publisher i .leave)
        (((hub.setCore publisher.core
          (hub.cores publisher.core).leavePublisher).setPublisher i publisher .left).tryReap
            publisher.url publisher.core)
  | subscribe {url : String} {options : SubscriberOptions} {middle : Hub P} {core : Nat}
      (free : hub.holder = none) (limit : 0 < hub.maxSubscribersPerStream)
      (located : Located hub url middle core) (pos : 0 < options.queueCapacity) :
      Transition hub (.subscribe url options)
        { middle with
          nextSubscriber := middle.nextSubscriber + 1
          subscribers := middle.subscribers ++
            [⟨url, core, middle.nextSubscriber, .joining, false, options.queue pos⟩] }
  | enterSubscriber {i : Nat} {subscriber : Subscriber P}
      (found : hub.subscribers[i]? = some subscriber) (joining : subscriber.phase = .joining) :
      Transition hub (.subscriber i .enter)
        ((hub.setCore subscriber.core { hub.cores subscriber.core with
          subscribers := KeyedList.insert subscriber.id subscriber.fresh
            (hub.cores subscriber.core).subscribers }).setSubscriber i subscriber .opened)
  | reject {i : Nat} {subscriber : Subscriber P}
      (found : hub.subscribers[i]? = some subscriber) (joining : subscriber.phase = .joining)
      (full : hub.maxSubscribersPerStream <= (hub.cores subscriber.core).subscribers.length) :
      Transition hub (.subscriber i .enter) (hub.setSubscriber i subscriber .rejected)
  | rejectIdle {i : Nat} {subscriber : Subscriber P}
      (found : hub.subscribers[i]? = some subscriber) (joining : subscriber.phase = .joining)
      (full : hub.maxSubscribersPerStream <= (hub.cores subscriber.core).subscribers.length) :
      Transition hub (.subscriber i .enter)
        ((hub.setSubscriber i subscriber .rejected).tryReap subscriber.url subscriber.core)
  | hear {i : Nat} {action : SubscriberAction} {subscriber : Subscriber P}
      (answer : Option (Received P)) (found : hub.subscribers[i]? = some subscriber) :
      Transition hub (.subscriber i action) (hub.hear subscriber.id answer)
  | deliver {i : Nat} {action : SubscriberAction} {subscriber : Subscriber P}
      {entry : SubscriberQueue P} (frame : MediaFrame P) (rest : List (MediaFrame P))
      (found : hub.subscribers[i]? = some subscriber)
      (isEntry : KeyedList.find subscriber.id (hub.cores subscriber.core).subscribers =
        some entry) :
      Transition hub (.subscriber i action)
        ((hub.setCore subscriber.core { hub.cores subscriber.core with
          subscribers := KeyedList.insert subscriber.id { entry with queue := rest }
            (hub.cores subscriber.core).subscribers }).hear subscriber.id
              (some (.ok (.frame frame))))
  | depart {i : Nat} {action : SubscriberAction} {subscriber : Subscriber P}
      (answer : Received P) (found : hub.subscribers[i]? = some subscriber) :
      Transition hub (.subscriber i action)
        ((((hub.setCore subscriber.core
          ((hub.cores subscriber.core).leaveSubscriber subscriber.id)).hear subscriber.id
            (some answer)).setSubscriber i subscriber .left).tryReap
              subscriber.url subscriber.core)
  | closeSubscriber {i : Nat} {subscriber : Subscriber P}
      (found : hub.subscribers[i]? = some subscriber) (opened : subscriber.phase = .opened) :
      Transition hub (.subscriber i .close) (hub.setSubscriber i subscriber .leaving)
  | leaveSubscriber {i : Nat} {subscriber : Subscriber P}
      (found : hub.subscribers[i]? = some subscriber) (leaving : subscriber.phase = .leaving) :
      Transition hub (.subscriber i .leave)
        (((hub.setCore subscriber.core
          ((hub.cores subscriber.core).leaveSubscriber subscriber.id)).setSubscriber
            i subscriber .left).tryReap subscriber.url subscriber.core)
  | dropSubscriber {i : Nat} {subscriber : Subscriber P}
      (found : hub.subscribers[i]? = some subscriber)
      (phase : subscriber.phase = .opened ∨ subscriber.phase = .left) :
      Transition hub (.subscriber i .drop)
        { hub with subscribers := hub.subscribers.set i { subscriber with dropped := true } }
  | requestKeyframe {url : String} {middle : Hub P} {core : Nat} (free : hub.holder = none)
      (located : Located hub url middle core) :
      Transition hub (.requestKeyframe url)
        { middle with requests := middle.requests ++ [⟨core, false⟩] }
  | noteRequest {i : Nat} {request : Request} (found : hub.requests[i]? = some request)
      (fresh : request.noted = false) :
      Transition hub (.noteRequest i)
        { hub.setCore request.core (hub.cores request.core).requestKeyframe with
          requests := hub.requests.set i { request with noted := true } }
  | reapLook {i : Nat} {reap : Reap} (found : hub.reaps[i]? = some reap)
      (looking : reap.phase = .looking) :
      Transition hub (.reap i .look)
        (hub.setReap i reap (if (hub.cores reap.core).isIdle then .entering else .ended))
  | reapHit {i : Nat} {reap : Reap} (found : hub.reaps[i]? = some reap)
      (entering : reap.phase = .entering) (free : hub.holder = none)
      (hit : KeyedList.find reap.url hub.registry = some reap.core) :
      Transition hub (.reap i .enter)
        { hub.setReap i reap .ended with holder := some ⟨reap.url, reap.core, false⟩ }
  | reapMiss {i : Nat} {reap : Reap} (found : hub.reaps[i]? = some reap)
      (entering : reap.phase = .entering)
      (miss : KeyedList.find reap.url hub.registry ≠ some reap.core) :
      Transition hub (.reap i .enter) (hub.setReap i reap .ended)
  | holderIdle {holder : Holder} (held : hub.holder = some holder) (looking : holder.idle = false)
      (idle : (hub.cores holder.core).isIdle = true) :
      Transition hub (.holder .look) { hub with holder := some { holder with idle := true } }
  | holderBusy {holder : Holder} (held : hub.holder = some holder) (looking : holder.idle = false)
      (busy : (hub.cores holder.core).isIdle = false) :
      Transition hub (.holder .look) { hub with holder := none }
  | holderRemove {holder : Holder} (held : hub.holder = some holder) (idle : holder.idle = true) :
      Transition hub (.holder .remove)
        { hub with holder := none, registry := KeyedList.erase holder.url hub.registry }

variable {hub next : Hub P}

theorem registered_cases {result : Except Error (Hub P)}
    (stepped : hub.registered result = some next) :
    next = hub ∨ (hub.holder = none ∧ result = .ok next) := by
  unfold registered at stepped
  split at stepped
  · cases stepped
  · rename_i free
    split at stepped
    · cases stepped
      exact Or.inr ⟨Option.not_isSome_iff_eq_none.mp free, rfl⟩
    · cases stepped
      exact Or.inl rfl

theorem setCore_unchanged (hub : Hub P) (core : Nat) :
    hub.setCore core (hub.cores core) = hub := by
  unfold setCore
  rw [Function.update_eq_self]

/-- A receive under the lock of the core. -/
theorem receiveLocked_transition {i : Nat} {subscriber : Subscriber P}
    (found : hub.subscribers[i]? = some subscriber) (patient : Bool)
    (action : SubscriberAction) :
    Transition hub (.subscriber i action) (hub.receiveLocked i subscriber patient) := by
  unfold receiveLocked StreamState.receive
  have unchanged := hub.setCore_unchanged subscriber.core
  split
  · rename_i absent
    -- taking out what is not there changes nothing
    have nothing : (hub.cores subscriber.core).leaveSubscriber subscriber.id =
        hub.cores subscriber.core := by
      unfold StreamState.leaveSubscriber
      rw [KeyedList.erase_of_find absent]
    have departs : Transition hub (.subscriber i action) _ := .depart (.ok .endOfStream) found
    rw [nothing] at departs
    exact departs
  · rename_i entry isEntry
    split
    · exact .depart (.error queueOverflow) found
    · split
      · rename_i frame rest isQueue
        exact .deliver frame rest found isEntry
      · split
        · dsimp only
          rw [unchanged, if_neg Bool.false_ne_true]
          exact .hear _ found
        · split
          · dsimp only
            rw [unchanged, if_neg Bool.false_ne_true]
            exact .hear _ found
          · dsimp only
            rw [unchanged, if_neg Bool.false_ne_true]
            exact .hear _ found

theorem stepPublisher_transition {i : Nat} {publisher : Publisher} {action : PublisherAction P}
    (found : hub.publishers[i]? = some publisher)
    (stepped : hub.stepPublisher i publisher action = some next) :
    Transition hub (.publisher i action) next := by
  cases action with
  | enter =>
      dsimp only [stepPublisher] at stepped
      split at stepped
      · rename_i joining
        cases stepped
        exact .enterPublisher found joining
      · cases stepped
  | pushFrame frame =>
      dsimp only [stepPublisher] at stepped
      split at stepped
      · cases stepped
      · unfold StreamState.pushFrame at stepped
        by_cases rejected : ((hub.cores publisher.core).publisherClosed ||
            decide (publisher.phase ≠ .opened)) = true
        · rw [if_pos rejected] at stepped
          cases stepped
          exact .same _
        · rw [if_neg rejected] at stepped
          rw [Bool.or_eq_true, not_or, decide_eq_true_eq, not_not, Bool.not_eq_true] at rejected
          have isNext : some ((hub.setCore publisher.core
              ((hub.cores publisher.core).offer frame)).notePublished publisher.core frame) =
                some next := by
            split at stepped
            · rename_i state same
              have result := congrArg Prod.snd same
              dsimp only at result
              split at result <;> cases result
            · rename_i state result same
              have isState := congrArg Prod.fst same
              dsimp only at isState
              rw [isState]
              exact stepped
          cases isNext
          exact .pushFrame frame found rejected.2 rejected.1
  | takeKeyframeRequests =>
      dsimp only [stepPublisher] at stepped
      split at stepped
      · cases stepped
      · rename_i joined
        cases stepped
        exact .takeKeyframeRequests found joined
  | close =>
      dsimp only [stepPublisher] at stepped
      split at stepped
      · cases stepped
      · rename_i opened
        cases stepped
        exact .closePublisher found opened
      · cases stepped
        exact .same _
      · cases stepped
        exact .same _
  | leave =>
      dsimp only [stepPublisher] at stepped
      split at stepped
      · rename_i leaving
        cases stepped
        exact .leavePublisher found leaving
      · cases stepped

theorem stepSubscriber_transition {i : Nat} {subscriber : Subscriber P}
    {action : SubscriberAction} (found : hub.subscribers[i]? = some subscriber)
    (stepped : hub.stepSubscriber i subscriber action = some next) :
    Transition hub (.subscriber i action) next := by
  cases action with
  | enter =>
      dsimp only [stepSubscriber] at stepped
      split at stepped
      · rename_i joining
        unfold StreamState.enterSubscriber at stepped
        by_cases full : hub.maxSubscribersPerStream <=
            (hub.cores subscriber.core).subscribers.length
        · rw [if_pos full] at stepped
          dsimp only at stepped
          split at stepped
          · cases stepped
            exact .rejectIdle found joining full
          · cases stepped
            exact .reject found joining full
        · rw [if_neg full] at stepped
          cases stepped
          exact .enterSubscriber found joining
      · cases stepped
  | receive patient =>
      dsimp only [stepSubscriber] at stepped
      split at stepped
      · cases stepped
      · split at stepped
        · cases stepped
          exact receiveLocked_transition found patient _
        · cases stepped
          exact .hear _ found
        · cases stepped
  | wake patient =>
      dsimp only [stepSubscriber] at stepped
      split at stepped
      · cases stepped
        exact receiveLocked_transition found patient _
      · cases stepped
  | expire =>
      dsimp only [stepSubscriber] at stepped
      split at stepped
      · cases stepped
        exact .hear _ found
      · cases stepped
  | close =>
      dsimp only [stepSubscriber] at stepped
      split at stepped
      · cases stepped
      · split at stepped
        · rename_i opened
          cases stepped
          exact .closeSubscriber found opened
        · cases stepped
          exact .same _
        · cases stepped
  | leave =>
      dsimp only [stepSubscriber] at stepped
      split at stepped
      · rename_i leaving
        cases stepped
        exact .leaveSubscriber found leaving
      · cases stepped
  | drop =>
      dsimp only [stepSubscriber] at stepped
      split at stepped
      · cases stepped
      · split at stepped
        · rename_i opened
          cases stepped
          exact .dropSubscriber found (Or.inl opened)
        · rename_i left
          cases stepped
          exact .dropSubscriber found (Or.inr left)
        · cases stepped

theorem stepReap_transition {i : Nat} {reap : Reap} {action : ReapAction}
    (found : hub.reaps[i]? = some reap)
    (stepped : hub.stepReap i reap action = some next) :
    Transition hub (.reap i action) next := by
  cases action with
  | look =>
      dsimp only [stepReap] at stepped
      split at stepped
      · rename_i looking
        cases stepped
        exact .reapLook found looking
      · cases stepped
  | enter =>
      dsimp only [stepReap] at stepped
      split at stepped
      · rename_i ready
        split at stepped
        · rename_i hit
          cases stepped
          exact .reapHit found ready.1 ready.2 hit
        · rename_i miss
          cases stepped
          exact .reapMiss found ready.1 miss
      · cases stepped

theorem stepHolder_transition {holder : Holder} {action : HolderAction}
    (held : hub.holder = some holder)
    (stepped : hub.stepHolder holder action = some next) :
    Transition hub (.holder action) next := by
  cases action with
  | look =>
      dsimp only [stepHolder] at stepped
      split at stepped
      · cases stepped
      · rename_i looking
        rw [Bool.not_eq_true] at looking
        split at stepped
        · rename_i idle
          cases stepped
          exact .holderIdle held looking idle
        · rename_i busy
          rw [Bool.not_eq_true] at busy
          cases stepped
          exact .holderBusy held looking busy
  | remove =>
      dsimp only [stepHolder] at stepped
      split at stepped
      · rename_i idle
        cases stepped
        exact .holderRemove held idle
      · cases stepped

/-- Every step is a transition. -/
theorem step_transition {event : Event P} (stepped : hub.step event = some next) :
    Transition hub event next := by
  cases event with
  | publish url =>
      rcases registered_cases stepped with rfl | ⟨free, result⟩
      · exact .same _
      · unfold publish at result
        split at result
        · cases result
        · rename_i middle core created
          cases result
          exact .publish free (getOrCreate_located created)
  | subscribe url options =>
      rcases registered_cases stepped with rfl | ⟨free, result⟩
      · exact .same _
      · unfold subscribe at result
        split at result
        · cases result
        · rename_i capacity
          split at result
          · cases result
          · rename_i limit
            split at result
            · cases result
            · rename_i middle core created
              cases result
              exact .subscribe free (Nat.pos_of_ne_zero limit) (getOrCreate_located created)
                (Nat.pos_of_ne_zero capacity)
  | requestKeyframe url =>
      rcases registered_cases stepped with rfl | ⟨free, result⟩
      · exact .same _
      · unfold requestKeyframe at result
        split at result
        · cases result
        · rename_i middle core created
          cases result
          exact .requestKeyframe free (getOrCreate_located created)
  | publisher i action =>
      rcases Option.bind_eq_some_iff.mp stepped with ⟨publisher, found, acted⟩
      exact stepPublisher_transition found acted
  | subscriber i action =>
      rcases Option.bind_eq_some_iff.mp stepped with ⟨subscriber, found, acted⟩
      exact stepSubscriber_transition found acted
  | noteRequest i =>
      rcases Option.bind_eq_some_iff.mp stepped with ⟨request, found, acted⟩
      unfold stepRequest at acted
      split at acted
      · cases acted
      · rename_i fresh
        rw [Bool.not_eq_true] at fresh
        cases acted
        exact .noteRequest found fresh
  | reap i action =>
      rcases Option.bind_eq_some_iff.mp stepped with ⟨reap, found, acted⟩
      exact stepReap_transition found acted
  | holder action =>
      rcases Option.bind_eq_some_iff.mp stepped with ⟨holder, held, acted⟩
      exact stepHolder_transition held acted

end Hub
end Stream
end DyunGu

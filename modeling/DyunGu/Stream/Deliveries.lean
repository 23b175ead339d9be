import DyunGu.Stream.HubCounts
import DyunGu.Stream.Overflow

namespace DyunGu
namespace Stream
namespace Hub

/-!
# What reaches one subscriber of the hub

Whatever the calls of a hub do, what one subscriber sees of it is a run of the
machine of one subscriber.  So what holds of that machine holds of every
subscriber of every hub.
-/

variable {P : Type} {hub next : Hub P} {event : Event P} {i : Nat} {subscriber : Subscriber P}

/-- The hub as one subscriber sees it. -/
def view (hub : Hub P) (subscriber : Subscriber P) : Subscription P where
  entry := KeyedList.find subscriber.id (hub.cores subscriber.core).subscribers
  waiting := (hub.logs subscriber.id).waiting
  published := (hub.logs subscriber.id).published
  received := (hub.logs subscriber.id).received

/-- The subscriber has entered its core at some time. -/
def Entered (subscriber : Subscriber P) : Prop :=
  subscriber.phase = .opened ∨ subscriber.phase = .leaving ∨ subscriber.phase = .left

/-- Two records of the same subscriber. -/
structure SameSeat (first second : Subscriber P) : Prop where
  core : first.core = second.core
  id : first.id = second.id
  fresh : first.fresh = second.fresh

theorem view_congr {other : Subscriber P} (seat : SameSeat other subscriber)
    (entry : KeyedList.find subscriber.id (next.cores subscriber.core).subscribers =
      KeyedList.find subscriber.id (hub.cores subscriber.core).subscribers)
    (log : next.logs subscriber.id = hub.logs subscriber.id) :
    next.view other = hub.view subscriber := by
  unfold view
  rw [seat.core, seat.id, entry, log]

theorem view_of_tables
    (tables : forall core, (next.cores core).subscribers = (hub.cores core).subscribers)
    (log : next.logs subscriber.id = hub.logs subscriber.id) :
    next.view subscriber = hub.view subscriber := by
  apply view_congr ⟨rfl, rfl, rfl⟩ _ log
  rw [tables]

theorem entry_setCore {core : Nat} {state : StreamState P} {id : Nat}
    (same : KeyedList.find id state.subscribers =
      KeyedList.find id (hub.cores core).subscribers) (other : Nat) :
    KeyedList.find id ((hub.setCore core state).cores other).subscribers =
      KeyedList.find id (hub.cores other).subscribers :=
  setCore_congr (fun state => KeyedList.find id state.subscribers) same other

theorem entry_insert {id other : Nat} (distinct : other ≠ id) (core : Nat)
    (queue : SubscriberQueue P) (seat : Nat) :
    KeyedList.find id ((hub.setCore core { hub.cores core with
      subscribers := KeyedList.insert other queue (hub.cores core).subscribers }).cores
        seat).subscribers = KeyedList.find id (hub.cores seat).subscribers := by
  apply entry_setCore
  show KeyedList.find id (KeyedList.insert other queue _) = _
  rw [KeyedList.find_insert, if_neg distinct]

theorem entry_leave {id other : Nat} (distinct : other ≠ id) (core seat : Nat) :
    KeyedList.find id ((hub.setCore core ((hub.cores core).leaveSubscriber other)).cores
      seat).subscribers = KeyedList.find id (hub.cores seat).subscribers := by
  apply entry_setCore
  show KeyedList.find id (KeyedList.erase other _) = _
  rw [KeyedList.find_erase, if_neg distinct]

theorem located_view {url : String} {middle : Hub P} {core : Nat}
    (located : Located hub url middle core) (bounded : Bounded hub)
    (found : hub.subscribers[i]? = some subscriber) :
    middle.subscribers = hub.subscribers ∧ middle.logs = hub.logs ∧
      middle.view subscriber = hub.view subscriber := by
  cases located with
  | existing core _ => exact ⟨rfl, rfl, rfl⟩
  | new absent =>
      refine ⟨rfl, rfl, view_congr ⟨rfl, rfl, rfl⟩ ?_ rfl⟩
      have within := bounded.subscribers subscriber (Records.mem_of_found found)
      show KeyedList.find _ (Function.update hub.cores hub.created StreamState.empty
        subscriber.core).subscribers = _
      rw [Function.update_of_ne (Nat.ne_of_lt within)]

/-- The core keeps no queue for a subscriber that has not entered it or has
left it. -/
theorem no_entry (sound : Sound hub) (found : hub.subscribers[i]? = some subscriber)
    (gone : present subscriber = false) :
    KeyedList.find subscriber.id (hub.cores subscriber.core).subscribers = none := by
  rw [← Option.not_isSome_iff_eq_none]
  intro kept
  rcases (sound.tabled.entries _ _).mp kept with ⟨record, atId, _, isPresent⟩
  rw [sound.tabled.ids i subscriber found, found] at atId
  cases atId
  rw [gone] at isPresent
  cases isPresent

/-- What others do to a subscriber: nothing, or a frame is published. -/
inductive Undisturbed (hub next : Hub P) (i : Nat) (subscriber : Subscriber P) : Prop where
  | quiet (log : next.logs i = hub.logs i) (same : next.view subscriber = hub.view subscriber)
  | publish (joined : subscriber.phase ≠ .joining) (frame : MediaFrame P)
      (published : (hub.view subscriber).step (.publish frame) = some (next.view subscriber))

theorem Undisturbed.waiting (undisturbed : Undisturbed hub next i subscriber)
    (isId : subscriber.id = i) : (next.logs i).waiting = (hub.logs i).waiting := by
  cases undisturbed with
  | quiet log _ => rw [log]
  | publish _ frame published =>
      have same := congrArg (Option.map Subscription.waiting) published
      have waiting : (hub.logs subscriber.id).waiting = (next.logs subscriber.id).waiting :=
        Option.some.inj same
      rw [isId] at waiting
      exact waiting.symm

/-- A frame that is published on some core. -/
theorem push_undisturbed (sound : Sound hub) (found : hub.subscribers[i]? = some subscriber)
    (core : Nat) (frame : MediaFrame P) :
    Undisturbed hub ((hub.setCore core ((hub.cores core).offer frame)).notePublished core frame)
      i subscriber := by
  have isId := sound.tabled.ids i subscriber found
  have seat : SameSeat subscriber subscriber := ⟨rfl, rfl, rfl⟩
  have log : (((hub.setCore core ((hub.cores core).offer frame)).notePublished core frame).logs i) =
      if subscriber.core = core ∧ subscriber.phase ≠ .joining then
        { hub.logs i with published := (hub.logs i).published ++ [frame] }
      else hub.logs i := by
    unfold notePublished
    dsimp only
    rw [show (hub.setCore _ _).subscribers = hub.subscribers from rfl, found]
    rfl
  have entry : KeyedList.find subscriber.id (((hub.cores core).offer frame).subscribers) =
      (KeyedList.find subscriber.id (hub.cores core).subscribers).map
        fun entry => entry.offered frame :=
    KeyedList.find_map (fun entry : SubscriberQueue P => entry.offered frame) _ _
  by_cases isCore : subscriber.core = core
  · by_cases joining : subscriber.phase = .joining
    · rw [if_neg fun both => both.2 joining] at log
      refine .quiet log (view_congr seat ?_ (by rw [isId]; exact log))
      -- there is no queue yet that the frame could be offered to
      have absent := no_entry sound found (by simp [present, joining])
      show KeyedList.find _ ((hub.setCore _ _).cores subscriber.core).subscribers = _
      rw [isCore] at absent ⊢
      rw [setCore_self, entry, absent]
      rfl
    · rw [if_pos ⟨isCore, joining⟩] at log
      refine .publish joining frame ?_
      unfold Subscription.step view
      rw [isId, log, show (notePublished _ _ _).cores = (hub.setCore _ _).cores from rfl,
        isCore, setCore_self, ← isId, entry]
  · rw [if_neg fun both => isCore both.1] at log
    refine .quiet log (view_congr seat ?_ (by rw [isId]; exact log))
    show KeyedList.find _ ((hub.setCore _ _).cores subscriber.core).subscribers = _
    rw [setCore_of_ne isCore]

/-- A step of someone else. -/
theorem elsewhere (sound : Sound hub) (transition : Transition hub event next)
    (found : hub.subscribers[i]? = some subscriber)
    (notOwn : forall action, event ≠ .subscriber i action) :
    next.subscribers[i]? = some subscriber ∧ Undisturbed hub next i subscriber := by
  have isId := sound.tabled.ids i subscriber found
  have other {j : Nat} {record : Subscriber P} {action : SubscriberAction}
      (foundToo : hub.subscribers[j]? = some record)
      (isEvent : event = .subscriber j action) : j ≠ i ∧ record.id ≠ subscriber.id := by
    have distinct : j ≠ i := fun same => notOwn action (same ▸ isEvent)
    rw [isId, sound.tabled.ids j record foundToo]
    exact ⟨distinct, distinct⟩
  have kept {j : Nat} {record : Subscriber P} (foundToo : hub.subscribers[j]? = some record)
      (changed : Subscriber P) (distinct : j ≠ i) :
      (hub.subscribers.set j changed)[i]? = some subscriber := by
    rw [Records.find_set foundToo, if_neg distinct]
    exact found
  have unheard {id : Nat} (distinct : id ≠ subscriber.id) (heard : Log P) :
      Function.update hub.logs id heard i = hub.logs i := by
    rw [isId] at distinct
    exact Function.update_of_ne distinct.symm heard hub.logs
  have seat : SameSeat subscriber subscriber := ⟨rfl, rfl, rfl⟩
  cases transition with
  | same => exact ⟨found, .quiet rfl rfl⟩
  | publish free located =>
      rcases located_view located sound.bounded found with ⟨subscribers, logs, same⟩
      refine ⟨?_, .quiet (congrFun logs i) same⟩
      rw [← subscribers] at found
      exact found
  | requestKeyframe free located =>
      rcases located_view located sound.bounded found with ⟨subscribers, logs, same⟩
      refine ⟨?_, .quiet (congrFun logs i) same⟩
      rw [← subscribers] at found
      exact found
  | subscribe free limit located pos =>
      rcases located_view located sound.bounded found with ⟨subscribers, logs, same⟩
      refine ⟨?_, .quiet (congrFun logs i) same⟩
      rw [← subscribers] at found
      exact (List.getElem?_append_left (Records.length_of_found found)).trans found
  | pushFrame frame _ _ _ => exact ⟨found, push_undisturbed sound found _ frame⟩
  | enterPublisher | takeKeyframeRequests | leavePublisher | noteRequest =>
      exact ⟨found, .quiet rfl (view_of_tables (setCore_congr StreamState.subscribers rfl) rfl)⟩
  | closePublisher | reapLook | reapHit | reapMiss | holderIdle | holderBusy | holderRemove =>
      exact ⟨found, .quiet rfl rfl⟩
  | enterSubscriber foundToo _ =>
      rcases other foundToo rfl with ⟨distinct, ids⟩
      exact ⟨kept foundToo _ distinct, .quiet rfl (view_congr seat (entry_insert ids _ _ _) rfl)⟩
  | reject foundToo _ _ | rejectIdle foundToo _ _ | closeSubscriber foundToo _
  | dropSubscriber foundToo =>
      exact ⟨kept foundToo _ (other foundToo rfl).1, .quiet rfl rfl⟩
  | @hear j action record answer foundToo =>
      rcases other foundToo rfl with ⟨distinct, ids⟩
      have log := unheard ids ((hub.logs record.id).hear answer)
      exact ⟨found, .quiet log (view_congr seat rfl (by rw [isId]; exact log))⟩
  | @deliver j action record entry frame rest foundToo isEntry =>
      rcases other foundToo rfl with ⟨distinct, ids⟩
      have log := unheard ids ((hub.logs record.id).hear (some (.ok (.frame frame))))
      exact ⟨found,
        .quiet log (view_congr seat (entry_insert ids _ _ _) (by rw [isId]; exact log))⟩
  | @depart j action record answer foundToo =>
      rcases other foundToo rfl with ⟨distinct, ids⟩
      have log := unheard ids ((hub.logs record.id).hear (some answer))
      exact ⟨kept foundToo _ distinct,
        .quiet log (view_congr seat (entry_leave ids _ _) (by rw [isId]; exact log))⟩
  | leaveSubscriber foundToo _ =>
      rcases other foundToo rfl with ⟨distinct, ids⟩
      exact ⟨kept foundToo _ distinct, .quiet rfl (view_congr seat (entry_leave ids _ _) rfl)⟩

/-- A receive is answered, or it waits. -/
def hearing (subscription : Subscription P) : Option (Received P) -> Subscription P
  | some outcome => subscription.answer outcome
  | none => { subscription with waiting := true }

/-- What a subscriber sees of a hub in which it heard an answer or waits. -/
theorem view_hear (hub next : Hub P) (answer : Option (Received P)) {after : Subscriber P}
    (seat : SameSeat after subscriber)
    (cores : next.cores subscriber.core = hub.cores subscriber.core)
    (logs : next.logs = Function.update hub.logs subscriber.id
      ((hub.logs subscriber.id).hear answer)) :
    next.view after = hearing (hub.view subscriber) answer := by
  unfold view
  rw [seat.core, seat.id, cores, logs, Function.update_self]
  cases answer <;> rfl

/-- The same where its queue changed as well. -/
theorem view_setCore (outcome : Received P) {after : Subscriber P}
    (seat : SameSeat after subscriber)
    (state : StreamState P) (cores : next.cores subscriber.core = state)
    (logs : next.logs = Function.update hub.logs subscriber.id
      ((hub.logs subscriber.id).hear (some outcome))) :
    next.view after =
      { hub.view subscriber with
        entry := KeyedList.find subscriber.id state.subscribers }.answer outcome := by
  unfold view
  rw [seat.core, seat.id, cores, logs, Function.update_self]
  rfl

/-- A receive under the lock is one of the machine of one subscriber. -/
theorem view_receiveLocked (found : hub.subscribers[i]? = some subscriber)
    (opened : subscriber.phase = .opened) (patient : Bool) :
    Exists fun after => (hub.receiveLocked i subscriber patient).subscribers[i]? = some after ∧
      SameSeat after subscriber ∧
      (after.phase = .opened ∨ after.phase = .left ∧
        ((hub.receiveLocked i subscriber patient).logs subscriber.id).waiting = false) ∧
      (hub.receiveLocked i subscriber patient).view after =
        (hub.view subscriber).receiveLocked (hub.cores subscriber.core).publisherClosed
          patient := by
  have seat : SameSeat subscriber subscriber := ⟨rfl, rfl, rfl⟩
  have left : SameSeat { subscriber with phase := .left } subscriber := ⟨rfl, rfl, rfl⟩
  have replaced : (hub.subscribers.set i { subscriber with phase := .left })[i]? =
      some { subscriber with phase := .left } := by
    rw [Records.find_set found, if_pos rfl]
  have unchanged := hub.setCore_unchanged subscriber.core
  have heard (outcome : Received P) : (Function.update hub.logs subscriber.id
      ((hub.logs subscriber.id).hear (some outcome)) subscriber.id).waiting = false := by
    rw [Function.update_self]
    rfl
  unfold receiveLocked Subscription.receiveLocked StreamState.receive
  cases isEntry : KeyedList.find subscriber.id (hub.cores subscriber.core).subscribers with
  | none =>
      have unseen : (hub.view subscriber).entry = none := isEntry
      rw [unseen]
      dsimp only
      rw [unchanged, if_pos rfl]
      refine ⟨_, replaced, left, Or.inr ⟨rfl, heard _⟩, ?_⟩
      exact view_hear hub _ (some (.ok .endOfStream)) left (by rfl) (by rfl)
  | some entry =>
      have seen : (hub.view subscriber).entry = some entry := isEntry
      rw [seen]
      dsimp only
      by_cases spilled : entry.overflowed = true
      · rw [if_pos spilled, if_pos spilled]
        dsimp only
        rw [if_pos rfl]
        refine ⟨_, replaced, left, Or.inr ⟨rfl, heard _⟩, ?_⟩
        refine (view_setCore (.error queueOverflow) left
          ((hub.cores subscriber.core).leaveSubscriber subscriber.id)
          (by exact setCore_self _ _) (by rfl)).trans ?_
        unfold StreamState.leaveSubscriber
        dsimp only
        rw [KeyedList.find_erase, if_pos rfl]
        rfl
      · rw [if_neg spilled, if_neg spilled]
        cases isQueue : entry.queue with
        | cons frame rest =>
            dsimp only
            rw [if_neg Bool.false_ne_true]
            refine ⟨subscriber, found, seat, Or.inl opened, ?_⟩
            refine (view_setCore (.ok (.frame frame)) seat _ (by exact setCore_self _ _)
              (by rfl)).trans ?_
            dsimp only
            rw [KeyedList.find_insert, if_pos rfl]
            rfl
        | nil =>
            dsimp only
            by_cases ended : (hub.cores subscriber.core).publisherClosed = true
            · rw [if_pos ended, if_pos ended]
              dsimp only
              rw [unchanged, if_neg Bool.false_ne_true]
              refine ⟨subscriber, found, seat, Or.inl opened, ?_⟩
              exact view_hear hub _ (some (.ok .endOfStream)) seat (by rfl) (by rfl)
            · rw [if_neg ended, if_neg ended]
              by_cases waits : patient = true
              · rw [if_pos waits, if_pos waits]
                dsimp only
                rw [unchanged, if_neg Bool.false_ne_true]
                refine ⟨subscriber, found, seat, Or.inl opened, ?_⟩
                refine (view_hear hub (hub.hear subscriber.id none) none seat rfl rfl).trans ?_
                show Subscription.mk (hub.view subscriber).entry _ _ _ = _
                rw [seen]
              · rw [if_neg waits, if_neg waits]
                dsimp only
                rw [unchanged, if_neg Bool.false_ne_true]
                refine ⟨subscriber, found, seat, Or.inl opened, ?_⟩
                exact view_hear hub _ (some (.ok .timedOut)) seat (by rfl) (by rfl)

/-- The moves that a step of the hub is for one subscriber. -/
structure Projects (hub next : Hub P) (event : Event P) (i : Nat)
    (subscriber after : Subscriber P) (moves : List (Move P)) : Prop where
  found : next.subscribers[i]? = some after
  seat : SameSeat after subscriber
  entered : Entered after
  waits : (next.logs i).waiting = true -> after.phase = .opened
  run : Subscription.machine.run (hub.view subscriber) moves = some (next.view after)
  closes : .close ∈ moves -> event = .subscriber i .leave
  ends : forall ended patient,
    .receive ended patient ∈ moves ∨ .wake ended patient ∈ moves ->
      ended = (hub.cores subscriber.core).publisherClosed
  single : moves.length <= 1

theorem Projects.quiet {after : Subscriber P} (found : next.subscribers[i]? = some after)
    (seat : SameSeat after subscriber) (entered : Entered after)
    (waits : (next.logs i).waiting = true -> after.phase = .opened)
    (same : next.view after = hub.view subscriber) :
    Projects hub next event i subscriber after [] where
  found := found
  seat := seat
  entered := entered
  waits := waits
  run := congrArg some same.symm
  closes := fun member => nomatch member
  ends := fun _ _ member => member.elim (fun member => nomatch member) fun member => nomatch member
  single := Nat.zero_le 1

theorem Projects.move {after : Subscriber P} (move : Move P)
    (found : next.subscribers[i]? = some after) (seat : SameSeat after subscriber)
    (entered : Entered after) (waits : (next.logs i).waiting = true -> after.phase = .opened)
    (stepped : (hub.view subscriber).step move = some (next.view after))
    (closes : move = .close -> event = .subscriber i .leave)
    (ends : forall ended patient, move = .receive ended patient ∨ move = .wake ended patient ->
      ended = (hub.cores subscriber.core).publisherClosed) :
    Projects hub next event i subscriber after [move] where
  found := found
  seat := seat
  entered := entered
  waits := waits
  run := (Machine.run_cons_iff _).mpr ⟨_, stepped, rfl⟩
  closes := fun member => closes (List.mem_singleton.mp member).symm
  ends := fun ended patient member => ends ended patient (member.imp
    (fun member => (List.mem_singleton.mp member).symm)
    fun member => (List.mem_singleton.mp member).symm)
  single := Nat.le_refl 1

/-- A receive of an open subscriber, anew or after it waited. -/
theorem locked_projects {action : SubscriberAction} {move : Move P} {patient : Bool}
    (isId : subscriber.id = i) (found : hub.subscribers[i]? = some subscriber)
    (opened : subscriber.phase = .opened)
    (isMove : move = .receive (hub.cores subscriber.core).publisherClosed patient ∨
      move = .wake (hub.cores subscriber.core).publisherClosed patient)
    (stepped : (hub.view subscriber).step move = some ((hub.view subscriber).receiveLocked
      (hub.cores subscriber.core).publisherClosed patient)) :
    Exists fun after => Exists fun moves => Projects hub (hub.receiveLocked i subscriber patient)
      (.subscriber i action) i subscriber after moves := by
  rcases view_receiveLocked found opened patient with ⟨after, isAfter, seat, phase, same⟩
  refine ⟨after, [move], Projects.move move isAfter seat ?_ ?_ ?_ ?_ ?_⟩
  · rcases phase with opened | ⟨left, _⟩
    · exact Or.inl opened
    · exact Or.inr (Or.inr left)
  · intro waiting
    rcases phase with opened | ⟨_, settled⟩
    · exact opened
    · rw [isId, waiting] at settled
      cases settled
  · rw [stepped, same]
  · rintro rfl
    rcases isMove with impossible | impossible <;> cases impossible
  · rintro ended late (rfl | rfl)
    · rcases isMove with same | impossible
      · exact (Move.receive.inj same).1
      · cases impossible
    · rcases isMove with impossible | same
      · cases impossible
      · exact (Move.wake.inj same).1

/-- An answer that leaves the queue as it is. -/
theorem answered_projects {action : SubscriberAction} {outcome : Received P} (move : Move P)
    (isId : subscriber.id = i) (found : hub.subscribers[i]? = some subscriber)
    (entered : Entered subscriber)
    (stepped : (hub.view subscriber).step move = some ((hub.view subscriber).answer outcome))
    (closes : move ≠ .close)
    (ends : forall ended patient, move = .receive ended patient ∨ move = .wake ended patient ->
      ended = (hub.cores subscriber.core).publisherClosed) :
    Exists fun after => Exists fun moves => Projects hub
      (hub.hear subscriber.id (some outcome)) (.subscriber i action) i subscriber after moves := by
  refine ⟨subscriber, [move], Projects.move move found ⟨rfl, rfl, rfl⟩ entered ?_ ?_
    (fun isClose => absurd isClose closes) ends⟩
  · intro waiting
    exfalso
    change (Function.update hub.logs subscriber.id _ i).waiting = true at waiting
    rw [isId, Function.update_self] at waiting
    cases waiting
  · rw [stepped]
    exact congrArg some (view_hear hub _ (some outcome) ⟨rfl, rfl, rfl⟩ (by rfl) (by rfl)).symm

/-- The second half of a close takes the subscriber off its core. -/
theorem leave_projects (isId : subscriber.id = i)
    (found : hub.subscribers[i]? = some subscriber) (leaving : subscriber.phase = .leaving)
    (waits : (hub.logs i).waiting = true -> subscriber.phase = .opened)
    (stepped : hub.stepSubscriber i subscriber .leave = some next) :
    Exists fun after => Exists fun moves =>
      Projects hub next (.subscriber i .leave) i subscriber after moves := by
  have settled : ¬ (hub.logs i).waiting = true := by
    intro waiting
    have opened := waits waiting
    rw [leaving] at opened
    cases opened
  dsimp only [stepSubscriber] at stepped
  rw [leaving] at stepped
  cases stepped
  refine ⟨_, [.close], Projects.move .close ((Records.find_set found _ i).trans (if_pos rfl))
    ⟨rfl, rfl, rfl⟩ (Or.inr (Or.inr rfl)) (fun waiting => absurd waiting settled) ?_
    (fun _ => rfl) ?_⟩
  · have calm : ¬ (hub.view subscriber).waiting = true := by
      show ¬ (hub.logs subscriber.id).waiting = true
      rw [isId]
      exact settled
    have entry : KeyedList.find subscriber.id ((hub.setCore subscriber.core
        ((hub.cores subscriber.core).leaveSubscriber subscriber.id)).cores
          subscriber.core).subscribers = none := by
      rw [setCore_self]
      exact (KeyedList.find_erase _ _ _).trans (if_pos rfl)
    refine (if_neg calm).trans ?_
    unfold view
    congr 2
    exact entry.symm
  · rintro ended late (impossible | impossible) <;> cases impossible

/-- A step of the subscriber itself. -/
theorem own_projects {action : SubscriberAction} (sound : Sound hub)
    (found : hub.subscribers[i]? = some subscriber) (entered : Entered subscriber)
    (waits : (hub.logs i).waiting = true -> subscriber.phase = .opened)
    (stepped : hub.stepSubscriber i subscriber action = some next) :
    Exists fun after => Exists fun moves =>
      Projects hub next (.subscriber i action) i subscriber after moves := by
  have isId := sound.tabled.ids i subscriber found
  have replaced (changed : Subscriber P) : (hub.subscribers.set i changed)[i]? = some changed := by
    rw [Records.find_set found, if_pos rfl]
  cases action with
  | enter =>
      dsimp only [stepSubscriber] at stepped
      split at stepped
      · rename_i joining
        rcases entered with phase | phase | phase <;> rw [joining] at phase <;> cases phase
      · cases stepped
  | receive patient =>
      dsimp only [stepSubscriber] at stepped
      split at stepped
      · cases stepped
      · rename_i free
        rw [Bool.or_eq_true, not_or] at free
        split at stepped
        · rename_i opened
          cases stepped
          exact locked_projects isId found opened (Or.inl rfl) (if_neg free.1)
        · rename_i left
          cases stepped
          have absent : (hub.view subscriber).entry = none :=
            no_entry sound found (by simp [present, left])
          apply answered_projects (.receive (hub.cores subscriber.core).publisherClosed patient)
            isId found entered
          · refine (if_neg free.1).trans ?_
            unfold Subscription.receiveLocked
            rw [absent]
          · intro impossible
            cases impossible
          · rintro ended late (same | impossible)
            · exact (Move.receive.inj same).1.symm
            · cases impossible
        · cases stepped
  | wake patient =>
      dsimp only [stepSubscriber] at stepped
      split at stepped
      · rename_i waiting
        have opened := waits (isId ▸ waiting)
        cases stepped
        exact locked_projects isId found opened (Or.inr rfl) (if_pos waiting)
      · cases stepped
  | expire =>
      dsimp only [stepSubscriber] at stepped
      split at stepped
      · rename_i waiting
        cases stepped
        apply answered_projects .expire isId found entered (if_pos waiting)
        · intro impossible
          cases impossible
        · rintro ended late (impossible | impossible) <;> cases impossible
      · cases stepped
  | close =>
      dsimp only [stepSubscriber] at stepped
      split at stepped
      · cases stepped
      · rename_i free
        rw [Bool.or_eq_true, not_or, isId] at free
        split at stepped
        · cases stepped
          exact ⟨_, [], Projects.quiet (replaced _) ⟨rfl, rfl, rfl⟩ (Or.inr (Or.inl rfl))
            (fun waiting => absurd waiting free.1) rfl⟩
        · cases stepped
          exact ⟨subscriber, [], Projects.quiet found ⟨rfl, rfl, rfl⟩ entered waits rfl⟩
        · cases stepped
  | leave =>
      have leaving : subscriber.phase = .leaving := by
        dsimp only [stepSubscriber] at stepped
        split at stepped
        · assumption
        · cases stepped
      exact leave_projects isId found leaving waits stepped
  | drop =>
      dsimp only [stepSubscriber] at stepped
      split at stepped
      · cases stepped
      · split at stepped
        · cases stepped
          exact ⟨_, [], Projects.quiet (replaced _) ⟨rfl, rfl, rfl⟩ entered waits rfl⟩
        · cases stepped
          exact ⟨_, [], Projects.quiet (replaced _) ⟨rfl, rfl, rfl⟩ entered waits rfl⟩
        · cases stepped

/-! ## Joining -/

/-- The list of subscribers grows by one that is about to join, or not at all. -/
theorem subscribers_grow (transition : Transition hub event next) :
    next.subscribers.length = hub.subscribers.length ∨
    Exists fun new : Subscriber P => next.subscribers = hub.subscribers ++ [new] ∧
      new.phase = .joining ∧ new.fresh.queue = [] ∧ new.fresh.overflowed = false ∧
      new.fresh.droppingUntilKeyframe = false := by
  have located {url : String} {middle : Hub P} {core : Nat}
      (located : Located hub url middle core) : middle.subscribers = hub.subscribers := by
    cases located <;> rfl
  cases transition with
  | publish _ place | requestKeyframe _ place =>
      have same := located place
      exact Or.inl (congrArg List.length same)
  | @subscribe url options middle core _ _ place pos =>
      right
      refine ⟨⟨url, core, middle.nextSubscriber, .joining, false, options.queue pos⟩, ?_, rfl, rfl,
        rfl, rfl⟩
      rw [← located place]
  | enterSubscriber | reject | rejectIdle | depart | closeSubscriber | leaveSubscriber
  | dropSubscriber => exact Or.inl List.length_set
  | same | enterPublisher | pushFrame | takeKeyframeRequests | closePublisher | leavePublisher
  | hear | deliver | noteRequest | reapLook | reapHit | reapMiss | holderIdle | holderBusy
  | holderRemove => exact Or.inl rfl

/-- Nothing is noted for a number that no subscriber has. -/
theorem unlisted_log (sound : Sound hub) (transition : Transition hub event next)
    (unlisted : hub.subscribers[i]? = none) : next.logs i = hub.logs i := by
  have located {url : String} {middle : Hub P} {core : Nat}
      (located : Located hub url middle core) : middle.logs = hub.logs := by
    cases located <;> rfl
  have unheard {j : Nat} {record : Subscriber P} (found : hub.subscribers[j]? = some record)
      (heard : Log P) : Function.update hub.logs record.id heard i = hub.logs i := by
    apply Function.update_of_ne
    intro same
    rw [same, sound.tabled.ids j record found, found] at unlisted
    cases unlisted
  cases transition with
  | publish _ place | requestKeyframe _ place | subscribe _ _ place _ =>
      have same := located place
      exact congrFun same i
  | hear _ found => exact unheard found _
  | deliver _ _ found _ => exact unheard found _
  | depart _ found => exact unheard found _
  | pushFrame frame _ _ _ =>
      unfold notePublished
      dsimp only
      rw [show (hub.setCore _ _).subscribers = hub.subscribers from rfl, unlisted]
      rfl
  | same | enterPublisher | takeKeyframeRequests | closePublisher | leavePublisher
  | enterSubscriber | reject | rejectIdle | closeSubscriber | leaveSubscriber | dropSubscriber
  | noteRequest | reapLook | reapHit | reapMiss | holderIdle | holderBusy | holderRemove => rfl

/-- A subscriber that has not entered its core can only enter it or be turned
away. -/
theorem joining_step {action : SubscriberAction}
    (found : hub.subscribers[i]? = some subscriber) (joining : subscriber.phase = .joining)
    (isId : subscriber.id = i) (silent : hub.logs i = Log.empty)
    (stepped : hub.stepSubscriber i subscriber action = some next) :
    next.logs = hub.logs ∧
      ((next.subscribers[i]? = some { subscriber with phase := .opened } ∧
          next.view { subscriber with phase := .opened } =
            Subscription.joined subscriber.fresh) ∨
        next.subscribers[i]? = some { subscriber with phase := .rejected }) := by
  have replaced (changed : Subscriber P) : (hub.subscribers.set i changed)[i]? = some changed := by
    rw [Records.find_set found, if_pos rfl]
  have calm : (hub.logs subscriber.id).waiting = false := by
    rw [isId, silent]
    rfl
  cases action with
  | enter =>
      dsimp only [stepSubscriber] at stepped
      rw [if_pos joining] at stepped
      unfold StreamState.enterSubscriber at stepped
      split at stepped
      · rename_i state entered
        split at entered
        · cases entered
        · cases entered
          cases stepped
          refine ⟨rfl, Or.inl ⟨replaced _, ?_⟩⟩
          unfold view Subscription.joined
          show Subscription.mk (KeyedList.find subscriber.id ((hub.setCore _ _).cores
            subscriber.core).subscribers) (hub.logs subscriber.id).waiting
              (hub.logs subscriber.id).published (hub.logs subscriber.id).received = _
          rw [setCore_self, isId, silent]
          dsimp only
          rw [KeyedList.find_insert, if_pos rfl]
          rfl
      · split at stepped
        · cases stepped
          exact ⟨rfl, Or.inr (replaced _)⟩
        · cases stepped
          exact ⟨rfl, Or.inr (replaced _)⟩
  | receive patient =>
      dsimp only [stepSubscriber] at stepped
      rw [joining] at stepped
      split at stepped <;> cases stepped
  | wake patient =>
      dsimp only [stepSubscriber] at stepped
      rw [calm] at stepped
      cases stepped
  | expire =>
      dsimp only [stepSubscriber] at stepped
      rw [calm] at stepped
      cases stepped
  | close =>
      dsimp only [stepSubscriber] at stepped
      rw [joining] at stepped
      split at stepped <;> cases stepped
  | leave =>
      dsimp only [stepSubscriber] at stepped
      rw [joining] at stepped
      cases stepped
  | drop =>
      dsimp only [stepSubscriber] at stepped
      rw [joining] at stepped
      split at stepped <;> cases stepped

/-- One that was turned away does nothing more. -/
theorem rejected_stuck {action : SubscriberAction} (rejected : subscriber.phase = .rejected)
    (calm : (hub.logs subscriber.id).waiting = false) :
    hub.stepSubscriber i subscriber action = none := by
  cases action with
  | receive patient | close | drop =>
      dsimp only [stepSubscriber]
      rw [rejected]
      split <;> rfl
  | enter | leave =>
      dsimp only [stepSubscriber]
      rw [rejected]
      rfl
  | wake patient | expire =>
      dsimp only [stepSubscriber]
      rw [calm]
      rfl

/-! ## Histories -/

/-- What a subscriber has seen of the hub is a run of the machine of one
subscriber, from its entry on. -/
structure Account (hub : Hub P) (i : Nat) (subscriber : Subscriber P) : Prop where
  fresh : subscriber.fresh.queue = [] ∧ subscriber.fresh.overflowed = false ∧
    subscriber.fresh.droppingUntilKeyframe = false
  silent : subscriber.phase = .joining -> hub.logs i = Log.empty
  waits : (hub.logs i).waiting = true -> subscriber.phase = .opened
  reach : Entered subscriber ->
    Subscription.machine.Reachable (Subscription.joined subscriber.fresh) (hub.view subscriber)

structure History (hub : Hub P) : Prop where
  listed : forall (i : Nat) (subscriber : Subscriber P), hub.subscribers[i]? = some subscriber ->
    Account hub i subscriber
  unlisted : forall i, hub.subscribers[i]? = none -> hub.logs i = Log.empty

/-- A step of the hub, for a subscriber that has entered its core. -/
theorem step_projects (sound : Sound hub) (account : Account hub i subscriber)
    (stepped : hub.step event = some next) (found : hub.subscribers[i]? = some subscriber)
    (entered : Entered subscriber) :
    Exists fun after => Exists fun moves => Projects hub next event i subscriber after moves := by
  by_cases isOwn : Exists fun action => event = .subscriber i action
  · rcases isOwn with ⟨action, rfl⟩
    rcases Option.bind_eq_some_iff.mp stepped with ⟨record, foundToo, acted⟩
    rw [found] at foundToo
    cases foundToo
    exact own_projects sound found entered account.waits acted
  · rcases elsewhere sound (step_transition stepped) found
      fun action isEvent => isOwn ⟨action, isEvent⟩ with ⟨stays, undisturbed⟩
    have waiting := undisturbed.waiting (sound.tabled.ids i subscriber found)
    rcases undisturbed with ⟨_, same⟩ | ⟨_, frame, published⟩
    · refine ⟨subscriber, [], Projects.quiet stays ⟨rfl, rfl, rfl⟩ entered ?_ same⟩
      rw [waiting]
      exact account.waits
    · refine ⟨subscriber, [.publish frame], Projects.move (.publish frame) stays ⟨rfl, rfl, rfl⟩
        entered ?_ published ?_ ?_⟩
      · rw [waiting]
        exact account.waits
      · intro impossible
        cases impossible
      · rintro ended patient (impossible | impossible) <;> cases impossible

theorem account_entered (sound : Sound hub) (account : Account hub i subscriber)
    (stepped : hub.step event = some next) (found : hub.subscribers[i]? = some subscriber)
    (entered : Entered subscriber) :
    Exists fun after => next.subscribers[i]? = some after ∧ Account next i after := by
  rcases step_projects sound account stepped found entered with ⟨after, moves, projects⟩
  refine ⟨after, projects.found, ?_, fun joining => ?_, projects.waits, fun _ => ?_⟩
  · rw [projects.seat.fresh]
    exact account.fresh
  · rcases projects.entered with phase | phase | phase <;> rw [joining] at phase <;> cases phase
  · rw [projects.seat.fresh]
    exact Machine.Reachable.run _ (account.reach entered) projects.run

theorem not_entered (phase : subscriber.phase = .joining ∨ subscriber.phase = .rejected) :
    ¬ Entered subscriber := by
  rintro (isPhase | isPhase | isPhase) <;> rw [isPhase] at phase <;>
    rcases phase with phase | phase <;> cases phase

/-- One that has not moved on. -/
theorem account_still (account : Account hub i subscriber)
    (phase : subscriber.phase = .joining ∨ subscriber.phase = .rejected)
    (silent : subscriber.phase = .joining -> next.logs i = hub.logs i)
    (waiting : (next.logs i).waiting = (hub.logs i).waiting) : Account next i subscriber := by
  refine ⟨account.fresh, fun joining => ?_, ?_, fun entered => absurd entered (not_entered phase)⟩
  · rw [silent joining]
    exact account.silent joining
  · rw [waiting]
    exact account.waits

theorem account_step (sound : Sound hub) (account : Account hub i subscriber)
    (stepped : hub.step event = some next) (found : hub.subscribers[i]? = some subscriber) :
    Exists fun after => next.subscribers[i]? = some after ∧ Account next i after := by
  have isId := sound.tabled.ids i subscriber found
  have still (phase : subscriber.phase = .joining ∨ subscriber.phase = .rejected)
      (notOwn : forall action, event ≠ .subscriber i action) :
      Exists fun after => next.subscribers[i]? = some after ∧ Account next i after := by
    rcases elsewhere sound (step_transition stepped) found notOwn with ⟨stays, undisturbed⟩
    have waiting := undisturbed.waiting isId
    rcases undisturbed with ⟨log, _⟩ | ⟨joined, _⟩
    · exact ⟨subscriber, stays, account_still account phase (fun _ => log) waiting⟩
    · exact ⟨subscriber, stays,
        account_still account phase (fun joining => absurd joining joined) waiting⟩
  by_cases isOwn : Exists fun action => event = .subscriber i action
  · rcases isOwn with ⟨action, rfl⟩
    rcases Option.bind_eq_some_iff.mp stepped with ⟨record, foundToo, acted⟩
    rw [found] at foundToo
    cases foundToo
    cases phase : subscriber.phase with
    | joining =>
        have silent := account.silent phase
        rcases joining_step found phase isId silent acted with
          ⟨logs, ⟨isOpened, same⟩ | isRejected⟩
        · refine ⟨_, isOpened, account.fresh, fun impossible => ?_, fun _ => rfl, fun _ => ?_⟩
          · cases impossible
          · rw [same]
            exact Machine.Reachable.refl _ _
        · refine ⟨_, isRejected, account.fresh, fun impossible => ?_, fun waiting => ?_,
            fun entered => absurd entered (not_entered (Or.inr rfl))⟩
          · cases impossible
          · rw [logs, silent] at waiting
            cases waiting
    | rejected =>
        have calm : (hub.logs subscriber.id).waiting = false := by
          rw [← Bool.not_eq_true, isId]
          intro waiting
          have opened := account.waits waiting
          rw [phase] at opened
          cases opened
        rw [rejected_stuck phase calm] at acted
        cases acted
    | opened => exact account_entered sound account stepped found (Or.inl phase)
    | leaving => exact account_entered sound account stepped found (Or.inr (Or.inl phase))
    | left => exact account_entered sound account stepped found (Or.inr (Or.inr phase))
  · have notOwn : forall action, event ≠ .subscriber i action :=
      fun action isEvent => isOwn ⟨action, isEvent⟩
    cases phase : subscriber.phase with
    | joining => exact still (Or.inl phase) notOwn
    | rejected => exact still (Or.inr phase) notOwn
    | opened => exact account_entered sound account stepped found (Or.inl phase)
    | leaving => exact account_entered sound account stepped found (Or.inr (Or.inl phase))
    | left => exact account_entered sound account stepped found (Or.inr (Or.inr phase))

theorem history_step (sound : Sound hub) (history : History hub)
    (stepped : hub.step event = some next) : History next := by
  have transition := step_transition stepped
  refine ⟨fun i after isAfter => ?_, fun i isNone => ?_⟩
  · cases found : hub.subscribers[i]? with
    | some subscriber =>
        rcases account_step sound (history.listed i subscriber found) stepped found with
          ⟨other, isOther, account⟩
        rw [isAfter] at isOther
        cases isOther
        exact account
    | none =>
        have silent := (unlisted_log sound transition found).trans (history.unlisted i found)
        rcases subscribers_grow transition with same | ⟨new, grown, joining, fresh⟩
        · have short := Records.length_of_found isAfter
          rw [List.getElem?_eq_none_iff] at found
          omega
        · have isNew : after = new := by
            rw [grown, Records.find_concat, found] at isAfter
            split at isAfter
            · exact (Option.some.inj isAfter).symm
            · cases isAfter
          rw [isNew]
          refine ⟨fresh, fun _ => silent, fun waiting => ?_,
            fun entered => absurd entered (not_entered (Or.inl joining))⟩
          rw [silent] at waiting
          cases waiting
  · have found : hub.subscribers[i]? = none := by
      rw [List.getElem?_eq_none_iff] at isNone ⊢
      rcases subscribers_grow transition with same | ⟨new, grown, _⟩
      · omega
      · rw [grown, List.length_append] at isNone
        omega
    exact (unlisted_log sound transition found).trans (history.unlisted i found)

theorem history_reachable {maxStreams maxSubscribersPerStream : Nat}
    (reachable : machine.Reachable (withLimits maxStreams maxSubscribersPerStream) hub) :
    Sound hub ∧ History hub := by
  refine machine.run_invariant (fun hub => Sound hub ∧ History hub)
    (fun _ _ _ both stepped => ⟨sound_step both.1 stepped, history_step both.1 both.2 stepped⟩)
    ⟨sound_withLimits _ _, fun i subscriber found => ?_, fun i _ => rfl⟩ reachable
  cases found

/-! ## The end of a stream -/

theorem endOfStream_told (sound : Sound hub) (account : Account hub i subscriber)
    (stepped : hub.step event = some next) (found : hub.subscribers[i]? = some subscriber)
    (entered : Entered subscriber)
    (told : (next.logs i).received = (hub.logs i).received ++ [.ok .endOfStream]) :
    (hub.view subscriber).pending = [] ∧
      (subscriber.phase = .opened -> (hub.cores subscriber.core).publishers = 0) := by
  have isId := sound.tabled.ids i subscriber found
  rcases step_projects sound account stepped found entered with ⟨after, moves, projects⟩
  have hears : (next.view after).received =
      (hub.view subscriber).received ++ [.ok .endOfStream] := by
    unfold view
    dsimp only
    rw [projects.seat.id, isId]
    exact told
  cases moves with
  | nil =>
      have same := Option.some.inj projects.run
      rw [← same] at hears
      have lengths := congrArg List.length hears
      rw [List.length_append, List.length_singleton] at lengths
      omega
  | cons move rest =>
      have only : rest = [] := by
        have single := projects.single
        rw [List.length_cons] at single
        exact List.length_eq_zero_iff.mp (by omega)
      subst only
      rcases (Machine.run_cons_iff _).mp projects.run with ⟨middle, moved, same⟩
      cases same
      rcases Subscription.endOfStream_step moved hears with ⟨empty, reason⟩
      refine ⟨empty, fun opened => ?_⟩
      rcases reason with gone | ⟨patient, isMove⟩
      · -- an open subscriber has a queue
        exfalso
        rcases entry_of_subscriber sound (Records.mem_of_found found) opened with ⟨entry, isEntry⟩
        cases gone.symm.trans isEntry
      · apply sound.counted.closed
        refine (projects.ends true patient ?_).symm
        rcases isMove with rfl | rfl
        · exact Or.inl List.mem_cons_self
        · exact Or.inr List.mem_cons_self

/-- In every state of the hub: a core counts the publishers that have entered
and not left it, the closed flag stands only where there are none, and the end
is reported only to a subscriber whose queue is empty. -/
theorem endOfStream_discipline {maxStreams maxSubscribersPerStream : Nat}
    (reachable : machine.Reachable (withLimits maxStreams maxSubscribersPerStream) hub) :
    (forall core, (hub.cores core).publishers = hub.publishers.countP (counts core)) ∧
    (forall core, (hub.cores core).publisherClosed = true -> (hub.cores core).publishers = 0) ∧
    (forall event next, hub.step event = some next -> forall i subscriber,
      hub.subscribers[i]? = some subscriber -> Entered subscriber ->
      (next.logs i).received = (hub.logs i).received ++ [.ok .endOfStream] ->
        (hub.view subscriber).pending = [] ∧
          (subscriber.phase = .opened -> (hub.cores subscriber.core).publishers = 0)) := by
  rcases history_reachable reachable with ⟨sound, history⟩
  refine ⟨sound.counted.count, sound.counted.closed, ?_⟩
  intro event next stepped i subscriber found entered told
  exact endOfStream_told sound (history.listed i subscriber found) stepped found entered told

def oneFrame (policy : BackpressurePolicy) : SubscriberOptions := ⟨1, policy, ⟨true, true⟩⟩

/-- A publisher and a subscriber with a queue of one frame. -/
def meeting (policy : BackpressurePolicy) : List (Event String) :=
  [.publish "mock://cam", .publisher 0 .enter,
    .subscribe "mock://cam" (oneFrame policy), .subscriber 0 .enter]

def viewer (policy : BackpressurePolicy) : Subscriber String :=
  ⟨"mock://cam", 0, 0, .opened, false, (oneFrame policy).queue Nat.one_pos⟩

/-- The publisher is closed twice. -/
def closing : List (Event String) :=
  meeting .dropUntilNextKeyframe ++
    [.publisher 0 (.pushFrame ⟨"I", [("keyframe", "true")]⟩), .subscriber 0 (.receive false),
      .publisher 0 .close, .publisher 0 .close, .publisher 0 .leave]

theorem closing_discipline :
    machine.Reachable (withLimits 8 8) (sample closing) ∧
      ((sample closing).cores 0).publisherClosed = true ∧
      ((sample closing).cores 0).publishers = 0 ∧
      ((sample closing).view (viewer .dropUntilNextKeyframe)).pending = [] := by
  have reached := sample_run closing rfl
  have told := (endOfStream_discipline ⟨closing, reached⟩).2
  refine ⟨⟨closing, reached⟩, rfl, told.1 0 rfl, ?_⟩
  rcases (Machine.run_cons_iff _).mp (sample_run_on closing [.subscriber 0 (.receive true)] rfl rfl)
    with ⟨next, stepped, same⟩
  cases same
  exact (told.2 (.subscriber 0 (.receive true)) _ stepped 0 _ rfl (Or.inl rfl) rfl).1

/-! ## The policies -/

theorem resuming_reachable {fresh : SubscriberQueue P} {subscription : Subscription P}
    (policy : fresh.policy = .dropUntilNextKeyframe) (empty : fresh.queue = [])
    (fine : fresh.overflowed = false)
    (reachable : Subscription.machine.Reachable (Subscription.joined fresh) subscription) :
    Subscription.Resuming fresh subscription :=
  Subscription.machine.run_invariant (Subscription.Resuming fresh)
    (fun _ _ _ resuming stepped =>
      Subscription.resuming_step policy resuming (Subscription.step_effect stepped))
    (Subscription.resuming_joined empty fine) reachable

/-- A subscriber that waits for the next keyframe: its queue keeps within its
capacity, it is given published frames in their order, and after a gap in them
a keyframe. -/
theorem dropUntilNextKeyframe_decodable {maxStreams maxSubscribersPerStream : Nat}
    (reachable : machine.Reachable (withLimits maxStreams maxSubscribersPerStream) hub)
    (found : hub.subscribers[i]? = some subscriber) (entered : Entered subscriber)
    (policy : subscriber.fresh.policy = .dropUntilNextKeyframe) :
    (hub.view subscriber).pending.length <= subscriber.fresh.capacity ∧
    (hub.view subscriber).delivered.Sublist
      ((hub.view subscriber).passing subscriber.fresh.filter) ∧
    Exists fun marks : Marks P =>
      marks.map Prod.fst = (hub.view subscriber).passing subscriber.fresh.filter ∧
      kept marks = (hub.view subscriber).delivered ++ (hub.view subscriber).pending ∧
      Decodable false marks := by
  rcases history_reachable reachable with ⟨sound, history⟩
  have account := history.listed i subscriber found
  have resuming := resuming_reachable policy account.fresh.1 account.fresh.2.1
    (account.reach entered)
  rcases resuming.decodes with ⟨front, back, decodes⟩
  have isKept : kept (front ++ back) =
      (hub.view subscriber).delivered ++ (hub.view subscriber).pending := by
    rw [kept_append, decodes.delivered, decodes.pending]
  refine ⟨?_, ?_, front ++ back, decodes.frames, isKept, decodes.decodable⟩
  · cases isEntry : (hub.view subscriber).entry with
    | none =>
        rw [Subscription.pending_of_none isEntry]
        exact Nat.zero_le _
    | some entry =>
        rcases resuming.within entry isEntry with ⟨alike, _, room⟩
        rw [Subscription.pending_of_some isEntry, ← alike.capacity]
        exact room
  · have part : (kept (front ++ back)).Sublist ((front ++ back).map Prod.fst) :=
      List.Sublist.map Prod.fst List.filter_sublist
    rw [isKept, decodes.frames] at part
    exact (List.sublist_append_left _ _).trans part

/-- A frame is lost at the full queue, and the next keyframe clears it. -/
def dropping : List (Event String) :=
  meeting .dropUntilNextKeyframe ++
    [.publisher 0 (.pushFrame ⟨"I", [("keyframe", "true")]⟩),
      .publisher 0 (.pushFrame ⟨"P", []⟩),
      .publisher 0 (.pushFrame ⟨"J", [("keyframe", "true")]⟩), .subscriber 0 (.receive false)]

theorem dropping_decodable :
    ((sample dropping).view (viewer .dropUntilNextKeyframe)).delivered =
        [⟨"J", [("keyframe", "true")]⟩] ∧
      ((sample dropping).view (viewer .dropUntilNextKeyframe)).delivered.Sublist
        (((sample dropping).view (viewer .dropUntilNextKeyframe)).passing ⟨true, true⟩) :=
  ⟨rfl, (dropUntilNextKeyframe_decodable (i := 0) ⟨dropping, sample_run dropping rfl⟩ rfl
    (Or.inl rfl) rfl).2.1⟩

theorem contiguous_reachable {fresh : SubscriberQueue P} {subscription : Subscription P}
    (policy : fresh.policy = .disconnectOnOverflow) (empty : fresh.queue = [])
    (ready : fresh.droppingUntilKeyframe = false)
    (reachable : Subscription.machine.Reachable (Subscription.joined fresh) subscription) :
    Subscription.Contiguous fresh subscription :=
  Subscription.machine.run_invariant (Subscription.Contiguous fresh)
    (fun _ _ _ contiguous stepped =>
      Subscription.contiguous_step policy contiguous (Subscription.step_effect stepped))
    (Subscription.contiguous_joined empty ready) reachable

/-- A run of the hub is a run of each of its subscribers. -/
theorem run_projects {final : Hub P} {events : List (Event P)} (sound : Sound hub)
    (history : History hub) (reached : machine.run hub events = some final)
    (found : hub.subscribers[i]? = some subscriber) (entered : Entered subscriber) :
    Exists fun after => Exists fun moves => final.subscribers[i]? = some after ∧
      SameSeat after subscriber ∧
      Subscription.machine.run (hub.view subscriber) moves = some (final.view after) ∧
      (.close ∈ moves -> .subscriber i .leave ∈ events) := by
  induction events generalizing hub subscriber with
  | nil =>
      cases reached
      exact ⟨subscriber, [], found, ⟨rfl, rfl, rfl⟩, rfl, fun member => nomatch member⟩
  | cons event events ih =>
      rcases (Machine.run_cons_iff _).mp reached with ⟨next, stepped, rest⟩
      change hub.step event = some next at stepped
      rcases step_projects sound (history.listed i subscriber found) stepped found entered with
        ⟨middle, first, projects⟩
      rcases ih (sound_step sound stepped) (history_step sound history stepped) rest
        projects.found projects.entered with ⟨after, later, isAfter, seat, run, closes⟩
      refine ⟨after, first ++ later, isAfter, ⟨seat.core.trans projects.seat.core,
        seat.id.trans projects.seat.id, seat.fresh.trans projects.seat.fresh⟩, ?_, fun member => ?_⟩
      · rw [Machine.run_append _ projects.run]
        exact run
      · rcases List.mem_append.mp member with early | late
        · rw [projects.closes early]
          exact List.mem_cons_self
        · exact List.mem_cons_of_mem _ (closes late)

/-- A second frame overflows the queue while a receive waits. -/
def overflowing : List (Event String) :=
  meeting .disconnectOnOverflow ++
    [.subscriber 0 (.receive true), .publisher 0 (.pushFrame ⟨"I", [("keyframe", "true")]⟩),
      .publisher 0 (.pushFrame ⟨"P", []⟩)]

end Hub
end Stream
end DyunGu

import DyunGu.Lib.Machine
import DyunGu.Lib.KeyedList
import DyunGu.Stream.Error

namespace DyunGu
namespace Stream

/-!
# Queues of subscribers

Frames that are published on a stream are offered to every subscriber, which
keeps them in a bounded queue.  A full queue overflows, and the policy of the
subscriber says which frames are then lost.
-/

variable {P : Type}

def keyframeTag : String := "keyframe"

def mediaTag : String := "media"

/-- A frame with its tags in the order of their keys.  Queues do not look at
the payload. -/
structure MediaFrame (P : Type) where
  payload : P
  tags : List (String × String)
deriving DecidableEq, Repr

structure MediaFilter where
  enableVideo : Bool
  enableAudio : Bool
deriving DecidableEq, Repr

inductive BackpressurePolicy where
  | dropDroppableFirst
  | dropUntilNextKeyframe
  | disconnectOnOverflow
deriving DecidableEq, Repr

def isKeyframe (frame : MediaFrame P) : Bool :=
  decide (KeyedList.find keyframeTag frame.tags = some "true")

def passesFilter (filter : MediaFilter) (frame : MediaFrame P) : Bool :=
  match KeyedList.find mediaTag frame.tags with
  | some "video" => filter.enableVideo
  | some "audio" => filter.enableAudio
  | _ => true

structure SubscriberQueue (P : Type) where
  queue : List (MediaFrame P)
  capacity : Nat
  policy : BackpressurePolicy
  filter : MediaFilter
  overflowed : Bool
  droppingUntilKeyframe : Bool
  capacity_pos : 0 < capacity

/-- What came of a frame at one subscriber. -/
structure Offer where
  enqueued : Bool
  dropped : Bool
deriving DecidableEq, Repr

namespace SubscriberQueue

/-- The first frame that is not a keyframe makes room, or else the oldest
one. -/
def makeRoom (queue : List (MediaFrame P)) : List (MediaFrame P) :=
  match queue.findIdx? fun queued => !isKeyframe queued with
  | some index => queue.eraseIdx index
  | none => queue.tail

def enqueue (subscriber : SubscriberQueue P) (frame : MediaFrame P) :
    SubscriberQueue P × Offer :=
  if subscriber.capacity <= subscriber.queue.length then
    match subscriber.policy with
    | .dropDroppableFirst =>
        ({ subscriber with queue := makeRoom subscriber.queue ++ [frame] }, ⟨true, true⟩)
    | .dropUntilNextKeyframe =>
        if isKeyframe frame then ({ subscriber with queue := [frame] }, ⟨true, true⟩)
        else ({ subscriber with droppingUntilKeyframe := true }, ⟨false, true⟩)
    | .disconnectOnOverflow =>
        ({ subscriber with overflowed := true, queue := [] }, ⟨false, true⟩)
  else ({ subscriber with queue := subscriber.queue ++ [frame] }, ⟨true, false⟩)

/-- One round of the loop over the subscribers. -/
def offer (subscriber : SubscriberQueue P) (frame : MediaFrame P) :
    SubscriberQueue P × Offer :=
  if subscriber.overflowed || !passesFilter subscriber.filter frame then
    (subscriber, ⟨false, false⟩)
  else if subscriber.droppingUntilKeyframe then
    if isKeyframe frame then { subscriber with droppingUntilKeyframe := false }.enqueue frame
    else (subscriber, ⟨false, true⟩)
  else subscriber.enqueue frame

/-- The queue after a frame was published. -/
def offered (subscriber : SubscriberQueue P) (frame : MediaFrame P) : SubscriberQueue P :=
  (subscriber.offer frame).1

/-- The three parts of a queue that are fixed when a subscriber joins. -/
structure Alike (first second : SubscriberQueue P) : Prop where
  capacity : first.capacity = second.capacity
  policy : first.policy = second.policy
  filter : first.filter = second.filter

theorem Alike.refl (subscriber : SubscriberQueue P) : Alike subscriber subscriber := ⟨rfl, rfl, rfl⟩

theorem Alike.trans {first second third : SubscriberQueue P} (left : Alike first second)
    (right : Alike second third) : Alike first third :=
  ⟨left.capacity.trans right.capacity, left.policy.trans right.policy,
    left.filter.trans right.filter⟩

theorem enqueue_alike (subscriber : SubscriberQueue P) (frame : MediaFrame P) :
    Alike (subscriber.enqueue frame).1 subscriber := by
  unfold enqueue
  split
  · split
    · exact ⟨rfl, rfl, rfl⟩
    · split <;> exact ⟨rfl, rfl, rfl⟩
    · exact ⟨rfl, rfl, rfl⟩
  · exact ⟨rfl, rfl, rfl⟩

theorem offered_alike (subscriber : SubscriberQueue P) (frame : MediaFrame P) :
    Alike (subscriber.offered frame) subscriber := by
  unfold offered offer
  split
  · exact Alike.refl subscriber
  · split
    · split
      · exact (enqueue_alike _ frame).trans ⟨rfl, rfl, rfl⟩
      · exact Alike.refl subscriber
    · exact enqueue_alike subscriber frame

end SubscriberQueue

/-! ## One subscriber -/

inductive ReceiveOutcome (P : Type) where
  | frame (frame : MediaFrame P)
  | endOfStream
  | timedOut
deriving DecidableEq, Repr

/-- The answer to a receive. -/
abbrev Received (P : Type) := Except Error (ReceiveOutcome P)

def queueOverflow : Error := .overflow "subscriber disconnected: queue overflow"

/-- What has to do with one subscriber: its queue as long as the stream keeps
one for it, whether a receive of it waits, and two records: the frames that
were published on the stream since it joined and the answers it was given. -/
structure Subscription (P : Type) where
  entry : Option (SubscriberQueue P)
  waiting : Bool
  published : List (MediaFrame P)
  received : List (Received P)

/-- Moves of one subscriber and its publishers.  A receive finds the stream
ended or not, and its deadline ahead or not. -/
inductive Move (P : Type) where
  | publish (frame : MediaFrame P)
  | receive (ended patient : Bool)
  | wake (ended patient : Bool)
  | expire
  | close

namespace Subscription

def joined (fresh : SubscriberQueue P) : Subscription P := ⟨some fresh, false, [], []⟩

def answer (subscription : Subscription P) (outcome : Received P) : Subscription P :=
  { subscription with waiting := false, received := subscription.received ++ [outcome] }

/-- What a receive does while it holds the lock of the stream. -/
def receiveLocked (subscription : Subscription P) (ended patient : Bool) : Subscription P :=
  match subscription.entry with
  | none => subscription.answer (.ok .endOfStream)
  | some subscriber =>
      if subscriber.overflowed then
        { subscription with entry := none }.answer (.error queueOverflow)
      else
        match subscriber.queue with
        | frame :: rest =>
            { subscription with entry := some { subscriber with queue := rest } }.answer
              (.ok (.frame frame))
        | [] =>
            if ended then subscription.answer (.ok .endOfStream)
            else if patient then { subscription with waiting := true }
            else subscription.answer (.ok .timedOut)

def step (subscription : Subscription P) : Move P -> Option (Subscription P)
  | .publish frame =>
      some { subscription with
        entry := subscription.entry.map fun subscriber => subscriber.offered frame
        published := subscription.published ++ [frame] }
  | .receive ended patient =>
      if subscription.waiting then none else some (subscription.receiveLocked ended patient)
  | .wake ended patient =>
      if subscription.waiting then some (subscription.receiveLocked ended patient) else none
  | .expire => if subscription.waiting then some (subscription.answer (.ok .timedOut)) else none
  | .close => if subscription.waiting then none else some { subscription with entry := none }

def machine : Machine (Subscription P) (Move P) := ⟨step⟩

/-- The frames among the answers. -/
def delivered (subscription : Subscription P) : List (MediaFrame P) :=
  subscription.received.filterMap fun
    | .ok (.frame frame) => some frame
    | _ => none

/-- The frames that wait to be received. -/
def pending (subscription : Subscription P) : List (MediaFrame P) :=
  match subscription.entry with
  | some subscriber => subscriber.queue
  | none => []

theorem pending_of_some {subscription : Subscription P} {subscriber : SubscriberQueue P}
    (isEntry : subscription.entry = some subscriber) :
    subscription.pending = subscriber.queue := by
  unfold pending
  rw [isEntry]

theorem pending_of_none {subscription : Subscription P} (gone : subscription.entry = none) :
    subscription.pending = [] := by
  unfold pending
  rw [gone]

/-- The frames that were published for the subscriber. -/
def passing (filter : MediaFilter) (subscription : Subscription P) : List (MediaFrame P) :=
  subscription.published.filter (passesFilter filter)

/-! ## What a move does -/

theorem delivered_answer (subscription : Subscription P) (outcome : Received P) :
    (subscription.answer outcome).delivered =
      subscription.delivered ++ match outcome with
        | .ok (.frame frame) => [frame]
        | _ => [] := by
  unfold delivered answer
  rw [List.filterMap_append]
  rcases outcome with error | outcome
  · rfl
  · cases outcome <;> rfl

/-- What each move does, with what it needs. -/
inductive Stepped (before : Subscription P) : Move P -> Subscription P -> Prop where
  | publish (frame : MediaFrame P) : Stepped before (.publish frame)
      { before with
        entry := before.entry.map fun subscriber => subscriber.offered frame
        published := before.published ++ [frame] }
  | receive (settled : before.waiting = false) (ended patient : Bool) :
      Stepped before (.receive ended patient) (before.receiveLocked ended patient)
  | wake (waits : before.waiting = true) (ended patient : Bool) :
      Stepped before (.wake ended patient) (before.receiveLocked ended patient)
  | expire (waits : before.waiting = true) :
      Stepped before .expire (before.answer (.ok .timedOut))
  | close (settled : before.waiting = false) : Stepped before .close { before with entry := none }

theorem step_cases {before after : Subscription P} {move : Move P}
    (stepped : before.step move = some after) : Stepped before move after := by
  cases move with
  | publish frame =>
      cases stepped
      exact .publish frame
  | receive ended patient =>
      dsimp only [step] at stepped
      split at stepped
      · cases stepped
      · rename_i settled
        cases stepped
        exact .receive (Bool.eq_false_of_not_eq_true settled) ended patient
  | wake ended patient =>
      dsimp only [step] at stepped
      split at stepped
      · rename_i waits
        cases stepped
        exact .wake waits ended patient
      · cases stepped
  | expire =>
      dsimp only [step] at stepped
      split at stepped
      · rename_i waits
        cases stepped
        exact .expire waits
      · cases stepped
  | close =>
      dsimp only [step] at stepped
      split at stepped
      · cases stepped
      · rename_i settled
        cases stepped
        exact .close (Bool.eq_false_of_not_eq_true settled)

/-- The effect of a move on queue and records. -/
inductive Effect (before after : Subscription P) : Prop where
  | publish (frame : MediaFrame P)
      (entry : after.entry = before.entry.map fun subscriber => subscriber.offered frame)
      (published : after.published = before.published ++ [frame])
      (delivered : after.delivered = before.delivered)
  | deliver (subscriber : SubscriberQueue P) (frame : MediaFrame P)
      (rest : List (MediaFrame P)) (isEntry : before.entry = some subscriber)
      (fine : subscriber.overflowed = false) (isQueue : subscriber.queue = frame :: rest)
      (entry : after.entry = some { subscriber with queue := rest })
      (published : after.published = before.published)
      (delivered : after.delivered = before.delivered ++ [frame])
  | leave (entry : after.entry = none) (published : after.published = before.published)
      (delivered : after.delivered = before.delivered)
  | idle (entry : after.entry = before.entry) (published : after.published = before.published)
      (delivered : after.delivered = before.delivered)

theorem receiveLocked_effect (subscription : Subscription P) (ended patient : Bool) :
    Effect subscription (subscription.receiveLocked ended patient) := by
  have quiet (outcome : Received P) (silent : forall frame, outcome ≠ .ok (.frame frame)) :
      Effect subscription (subscription.answer outcome) := by
    refine .idle rfl rfl ?_
    rw [delivered_answer]
    rcases outcome with error | frame | _ | _
    · exact List.append_nil _
    · exact absurd rfl (silent frame)
    · exact List.append_nil _
    · exact List.append_nil _
  unfold receiveLocked
  split
  · exact quiet _ (by simp)
  · rename_i subscriber isEntry
    split
    · refine .leave rfl rfl ?_
      rw [delivered_answer]
      exact List.append_nil _
    · rename_i fine
      split
      · rename_i frame rest isQueue
        refine .deliver subscriber frame rest isEntry (Bool.eq_false_of_not_eq_true fine) isQueue
          rfl rfl ?_
        rw [delivered_answer]
        rfl
      · split
        · exact quiet _ (by simp)
        · split
          · exact .idle rfl rfl rfl
          · exact quiet _ (by simp)

theorem step_effect {before after : Subscription P} {move : Move P}
    (stepped : before.step move = some after) : Effect before after := by
  cases step_cases stepped with
  | publish frame => exact .publish frame rfl rfl rfl
  | receive _ ended patient | wake _ ended patient => exact receiveLocked_effect before ended patient
  | expire =>
      refine .idle rfl rfl ?_
      rw [delivered_answer]
      exact List.append_nil _
  | close => exact .leave rfl rfl rfl

/-- The end is reported only when nothing waits to be received, and to a
subscriber with a queue only when the stream has ended. -/
theorem endOfStream_step {before after : Subscription P} {move : Move P}
    (stepped : before.step move = some after)
    (told : after.received = before.received ++ [.ok .endOfStream]) :
    before.pending = [] ∧ (before.entry = none ∨
      Exists fun patient => move = .receive true patient ∨ move = .wake true patient) := by
  have silent {answers : List (Received P)} (same : answers = answers ++ [.ok .endOfStream]) :
      False := by
    have lengths := congrArg List.length same
    rw [List.length_append, List.length_singleton] at lengths
    omega
  have last {other : Received P} {answers : List (Received P)}
      (same : answers ++ [other] = answers ++ [.ok .endOfStream]) : other = .ok .endOfStream := by
    have heads := List.append_cancel_left same
    exact (List.cons.inj heads).1
  have locked (ended patient : Bool) (isAfter : before.receiveLocked ended patient = after) :
      before.pending = [] ∧ (before.entry = none ∨ ended = true) := by
    rw [← isAfter] at told
    unfold receiveLocked at told
    cases isEntry : before.entry with
    | none => exact ⟨pending_of_none isEntry, Or.inl rfl⟩
    | some subscriber =>
        rw [isEntry] at told
        rw [pending_of_some isEntry]
        dsimp only at told
        split at told
        · cases last told
        · cases isQueue : subscriber.queue with
          | cons frame rest =>
              rw [isQueue] at told
              cases last told
          | nil =>
              rw [isQueue] at told
              cases ended with
              | true => exact ⟨rfl, Or.inr rfl⟩
              | false =>
                  cases patient with
                  | true => exact (silent told).elim
                  | false => cases last told
  cases step_cases stepped with
  | publish frame => exact (silent told).elim
  | receive _ ended patient =>
      rcases locked ended patient rfl with ⟨empty, none | rfl⟩
      · exact ⟨empty, Or.inl none⟩
      · exact ⟨empty, Or.inr ⟨patient, Or.inl rfl⟩⟩
  | wake _ ended patient =>
      rcases locked ended patient rfl with ⟨empty, none | rfl⟩
      · exact ⟨empty, Or.inl none⟩
      · exact ⟨empty, Or.inr ⟨patient, Or.inr rfl⟩⟩
  | expire => cases last told
  | close => exact (silent told).elim

end Subscription

end Stream
end DyunGu

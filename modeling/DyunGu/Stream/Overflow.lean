import DyunGu.Stream.Queue

namespace DyunGu
namespace Stream

/-!
# What the policies promise at an overflow

For one subscriber, over every order of publications and receives: which
frames the policy that drops droppable frames first gives up, that the policy
that waits for a keyframe leaves a gap only before one, and that the policy
that disconnects delivers everything up to the overflow.
-/

variable {P : Type}

/-! ## Dropping droppable frames first -/

namespace SubscriberQueue

/-- The frame is to be queued and there is no room for it. -/
def overflows (subscriber : SubscriberQueue P) (frame : MediaFrame P) : Bool :=
  !subscriber.overflowed && passesFilter subscriber.filter frame &&
    (!subscriber.droppingUntilKeyframe || isKeyframe frame) &&
    decide (subscriber.capacity <= subscriber.queue.length)

def keyframes (frames : List (MediaFrame P)) : Nat := frames.countP isKeyframe

/-- A keyframe, queued or incoming, is lost in an overflow only where all
frames are keyframes. -/
def Protects (subscriber : SubscriberQueue P) (frame : MediaFrame P) : Prop :=
  subscriber.overflows frame = true ->
  keyframes (subscriber.offered frame).queue < keyframes (subscriber.queue ++ [frame]) ->
    forall other, other ∈ subscriber.queue ++ [frame] -> isKeyframe other = true

/-- The full queue holds keyframes only and the incoming frame is droppable. -/
def cornered (subscriber : SubscriberQueue P) (frame : MediaFrame P) : Bool :=
  subscriber.overflows frame && subscriber.queue.all isKeyframe && !isKeyframe frame

theorem offered_of_overflows {subscriber : SubscriberQueue P} {frame : MediaFrame P}
    (policy : subscriber.policy = .dropDroppableFirst)
    (overflows : subscriber.overflows frame = true) :
    (subscriber.offered frame).queue = makeRoom subscriber.queue ++ [frame] := by
  unfold SubscriberQueue.overflows at overflows
  simp only [Bool.and_eq_true, Bool.not_eq_true', Bool.or_eq_true, decide_eq_true_eq] at overflows
  rcases overflows with ⟨⟨⟨fine, passes⟩, wanted⟩, full⟩
  unfold offered offer
  rw [fine, passes, Bool.not_true, Bool.or_false, if_neg Bool.false_ne_true]
  rcases wanted with ready | isKey
  · rw [ready, if_neg Bool.false_ne_true]
    unfold enqueue
    rw [if_pos full, policy]
  · rw [isKey, if_pos rfl]
    unfold enqueue
    rw [if_pos full, policy]
    split <;> rfl

/-- Where a droppable frame is queued, it makes room. -/
theorem keyframes_makeRoom {queue : List (MediaFrame P)}
    (droppable : queue.all isKeyframe = false) :
    keyframes (makeRoom queue) = keyframes queue := by
  rw [List.all_eq_false] at droppable
  rcases droppable with ⟨frame, member, notKey⟩
  have isDroppable : (!isKeyframe frame) = true := by
    rw [Bool.eq_false_of_not_eq_true notKey]
    rfl
  have erased : makeRoom queue = queue.eraseP fun queued => !isKeyframe queued := by
    unfold makeRoom
    rw [List.eraseP_eq_eraseIdx]
    cases found : queue.findIdx? fun queued => !isKeyframe queued with
    | some index => rfl
    | none =>
        rw [List.findIdx?_eq_none_iff] at found
        rw [found frame member] at isDroppable
        cases isDroppable
  rcases List.exists_of_eraseP (p := fun queued => !isKeyframe queued) member isDroppable with
    ⟨victim, front, back, _, isVictim, whole, left⟩
  have lost : isKeyframe victim = false := by simpa using isVictim
  rw [erased, left, whole]
  unfold keyframes
  rw [List.countP_append, List.countP_append, List.countP_cons, lost]
  rfl

/-- Where there is none, the oldest keyframe makes room. -/
theorem makeRoom_of_keyframes {queue : List (MediaFrame P)} (all : queue.all isKeyframe = true) :
    makeRoom queue = queue.tail := by
  unfold makeRoom
  have none : queue.findIdx? (fun queued => !isKeyframe queued) = none := by
    rw [List.findIdx?_eq_none_iff]
    intro frame member
    rw [List.all_eq_true.mp all frame member]
    rfl
  rw [none]

theorem keyframes_of_all {frames : List (MediaFrame P)}
    (all : forall frame, frame ∈ frames -> isKeyframe frame = true) :
    keyframes frames = frames.length :=
  List.countP_eq_length.mpr all

theorem protects_iff {subscriber : SubscriberQueue P}
    (policy : subscriber.policy = .dropDroppableFirst) (frame : MediaFrame P) :
    subscriber.Protects frame <-> subscriber.cornered frame = false := by
  unfold Protects cornered
  cases overflows : subscriber.overflows frame with
  | false => simp
  | true =>
      rw [offered_of_overflows policy overflows, Bool.true_and]
      have full : subscriber.capacity <= subscriber.queue.length := by
        unfold SubscriberQueue.overflows at overflows
        rw [Bool.and_eq_true, decide_eq_true_eq] at overflows
        exact overflows.2
      cases all : subscriber.queue.all isKeyframe with
      | false =>
          refine ⟨fun _ => rfl, fun _ _ lost => absurd lost ?_⟩
          unfold keyframes at *
          rw [List.countP_append, List.countP_append]
          have same := keyframes_makeRoom all
          unfold keyframes at same
          omega
      | true =>
          have each := List.all_eq_true.mp all
          cases isKey : isKeyframe frame with
          | true =>
              refine ⟨fun _ => rfl, fun _ _ _ other member => ?_⟩
              rcases List.mem_append.mp member with queued | incoming
              · exact each other queued
              · rw [List.mem_singleton.mp incoming]
                exact isKey
          | false =>
              refine ⟨fun protects => ?_, fun impossible => by cases impossible⟩
              have lost : keyframes (makeRoom subscriber.queue ++ [frame]) <
                  keyframes (subscriber.queue ++ [frame]) := by
                have before := keyframes_of_all each
                have after : keyframes subscriber.queue.tail = subscriber.queue.tail.length :=
                  keyframes_of_all fun other member => each other (List.mem_of_mem_tail member)
                have room := subscriber.capacity_pos
                rw [makeRoom_of_keyframes all]
                unfold keyframes at *
                rw [List.countP_append, List.countP_append, before, after, List.length_tail]
                omega
              have isKeyToo := protects rfl lost frame (by simp)
              rw [isKey] at isKeyToo
              cases isKeyToo

end SubscriberQueue

/-- What is to hold of a frame that is published while the queue of a
subscriber drops droppable frames first. -/
def AtPublication (property : SubscriberQueue P -> MediaFrame P -> Prop) :
    Subscription P -> Move P -> Prop
  | subscription, .publish frame => forall subscriber, subscription.entry = some subscriber ->
      subscriber.policy = .dropDroppableFirst -> property subscriber frame
  | _, _ => True

/-- Keyframes are protected throughout a run, just when no droppable frame
comes to a full queue of keyframes. -/
theorem keyframes_protected_iff (subscription : Subscription P) (moves : List (Move P)) :
    Subscription.machine.Meets (AtPublication SubscriberQueue.Protects) subscription moves <->
      Subscription.machine.Meets
        (AtPublication fun subscriber frame => subscriber.cornered frame = false)
        subscription moves := by
  apply Machine.meets_congr _ (fun _ => True) (fun _ _ _ _ _ _ => trivial) _ _ trivial
  intro state move _
  cases move with
  | publish frame =>
      constructor
      · intro protects subscriber isEntry policy
        exact (SubscriberQueue.protects_iff policy frame).mp (protects subscriber isEntry policy)
      · intro roomy subscriber isEntry policy
        exact (SubscriberQueue.protects_iff policy frame).mpr (roomy subscriber isEntry policy)
  | _ => exact Iff.rfl

/-- A subscriber that has room for one frame and is sent a keyframe first. -/
theorem keyframe_lost_to_droppable :
    ¬ Subscription.machine.Meets (AtPublication SubscriberQueue.Protects)
      (Subscription.joined
        ⟨[], 1, .dropDroppableFirst, ⟨true, true⟩, false, false, Nat.zero_lt_one⟩)
      [.publish ⟨"I", [("keyframe", "true")]⟩, .publish ⟨"P", []⟩] := by
  intro meets
  have protects := (meets.2 _ rfl).1 _ rfl rfl
  rw [SubscriberQueue.protects_iff rfl] at protects
  revert protects
  decide +kernel

/-! ## Waiting for the next keyframe -/

/-- Frames in the order of their publication, each with a mark whether it was
kept for the subscriber. -/
abbrev Marks (P : Type) := List (MediaFrame P × Bool)

def kept (marks : Marks P) : List (MediaFrame P) := (marks.filter Prod.snd).map Prod.fst

/-- The first frame that is kept after frames that are not is a keyframe. -/
def Decodable : Bool -> Marks P -> Prop
  | _, [] => True
  | _, (_, false) :: rest => Decodable true rest
  | gap, (frame, true) :: rest => (gap = true -> isKeyframe frame = true) ∧ Decodable false rest

/-- Whether the last frame was not kept. -/
def gapAfter : Bool -> Marks P -> Bool
  | gap, [] => gap
  | _, (_, keeps) :: rest => gapAfter (!keeps) rest

theorem kept_append (front back : Marks P) : kept (front ++ back) = kept front ++ kept back := by
  unfold kept
  rw [List.filter_append, List.map_append]

theorem gapAfter_append (gap : Bool) (front back : Marks P) :
    gapAfter gap (front ++ back) = gapAfter (gapAfter gap front) back := by
  induction front generalizing gap with
  | nil => rfl
  | cons mark front ih => exact ih _

theorem decodable_append {gap : Bool} {front back : Marks P} :
    Decodable gap (front ++ back) <->
      Decodable gap front ∧ Decodable (gapAfter gap front) back := by
  induction front generalizing gap with
  | nil => exact ⟨fun decodable => ⟨trivial, decodable⟩, fun both => both.2⟩
  | cons mark front ih =>
      rcases mark with ⟨frame, keeps⟩
      cases keeps with
      | false => exact ih
      | true =>
          show (_ ∧ Decodable false (front ++ back)) <-> (_ ∧ Decodable false front) ∧ _
          rw [ih, and_assoc]
          rfl

/-- All frames given up. -/
def givenUp (marks : Marks P) : Marks P := marks.map fun mark => (mark.1, false)

theorem kept_givenUp (marks : Marks P) : kept (givenUp marks) = [] := by
  unfold kept givenUp
  rw [List.filter_eq_nil_iff.mpr]
  · rfl
  · intro mark member
    rcases List.mem_map.mp member with ⟨other, _, rfl⟩
    exact Bool.false_ne_true

theorem frames_givenUp (marks : Marks P) :
    (givenUp marks).map Prod.fst = marks.map Prod.fst := by
  unfold givenUp
  rw [List.map_map]
  rfl

theorem decodable_givenUp (gap : Bool) (marks : Marks P) : Decodable gap (givenUp marks) := by
  induction marks generalizing gap with
  | nil => trivial
  | cons mark marks ih => exact ih true

/-- Where a kept frame stands among the marks. -/
theorem kept_cons {marks : Marks P} {frame : MediaFrame P} {rest : List (MediaFrame P)}
    (isKept : kept marks = frame :: rest) :
    Exists fun skipped => Exists fun after =>
      marks = skipped ++ (frame, true) :: after ∧ kept skipped = [] ∧ kept after = rest := by
  induction marks with
  | nil => cases isKept
  | cons mark marks ih =>
      rcases mark with ⟨other, keeps⟩
      cases keeps with
      | false =>
          rcases ih isKept with ⟨skipped, after, split, none, left⟩
          exact ⟨(other, false) :: skipped, after, by rw [split]; rfl, none, left⟩
      | true =>
          have both : other :: kept marks = frame :: rest := isKept
          cases both
          exact ⟨[], marks, rfl, rfl, rfl⟩

/-- What the marks say of one subscriber: those of the frames it was given,
followed by those of the frames it has not been given yet. -/
structure Decodes (filter : MediaFilter) (subscription : Subscription P)
    (front back : Marks P) : Prop where
  frames : (front ++ back).map Prod.fst = subscription.passing filter
  delivered : kept front = subscription.delivered
  pending : kept back = subscription.pending
  decodable : Decodable false (front ++ back)
  waits : forall subscriber, subscription.entry = some subscriber ->
    gapAfter false (front ++ back) = true -> subscriber.droppingUntilKeyframe = true

/-- A published frame gets the last mark. The frames that were not given yet may
have been given up for it. -/
theorem Decodes.mark {filter : MediaFilter} {before after : Subscription P}
    {front back marks : Marks P} {frame : MediaFrame P} {keeps : Bool}
    (decodes : Decodes filter before front back)
    (frames : marks.map Prod.fst = back.map Prod.fst)
    (decodable : Decodable false (front ++ marks))
    (passing : after.passing filter = before.passing filter ++ [frame])
    (delivered : after.delivered = before.delivered)
    (pending : kept (marks ++ [(frame, keeps)]) = after.pending)
    (wanted : keeps = true -> gapAfter false (front ++ marks) = true -> isKeyframe frame = true)
    (waits : keeps = false -> forall subscriber, after.entry = some subscriber ->
      subscriber.droppingUntilKeyframe = true) :
    Decodes filter after front (marks ++ [(frame, keeps)]) := by
  refine ⟨?_, decodes.delivered.trans delivered.symm, pending, ?_, ?_⟩
  · rw [passing, ← decodes.frames, ← List.append_assoc, List.map_append, List.map_append,
      List.map_append, frames]
    rfl
  · rw [← List.append_assoc, decodable_append]
    cases keeps with
    | false => exact ⟨decodable, trivial⟩
    | true => exact ⟨decodable, wanted rfl, trivial⟩
  · intro subscriber isEntry gap
    rw [← List.append_assoc, gapAfter_append] at gap
    cases keeps with
    | false => exact waits rfl subscriber isEntry
    | true => cases gap

namespace SubscriberQueue

/-- What the policy does with a frame. -/
inductive Resumes (before after : SubscriberQueue P) (frame : MediaFrame P) : Prop where
  | filtered (passes : passesFilter before.filter frame = false) (same : after = before)
  | skip (passes : passesFilter before.filter frame = true)
      (queue : after.queue = before.queue) (dropping : after.droppingUntilKeyframe = true)
  | append (passes : passesFilter before.filter frame = true)
      (room : before.queue.length < before.capacity)
      (wanted : before.droppingUntilKeyframe = true -> isKeyframe frame = true)
      (queue : after.queue = before.queue ++ [frame])
  | restart (passes : passesFilter before.filter frame = true) (isKey : isKeyframe frame = true)
      (queue : after.queue = [frame])

theorem enqueue_resumes {before current : SubscriberQueue P} {frame : MediaFrame P}
    (alike : Alike current before) (sameQueue : current.queue = before.queue)
    (policy : before.policy = .dropUntilNextKeyframe)
    (passes : passesFilter before.filter frame = true)
    (wanted : before.droppingUntilKeyframe = true -> isKeyframe frame = true) :
    Resumes before (current.enqueue frame).1 frame := by
  unfold enqueue
  rw [alike.policy, policy, sameQueue]
  split
  · cases isKey : isKeyframe frame with
    | true => exact .restart passes isKey rfl
    | false => exact .skip passes rfl rfl
  · rename_i room
    rw [alike.capacity, not_le] at room
    exact .append passes room wanted rfl

theorem offered_resumes {subscriber : SubscriberQueue P}
    (policy : subscriber.policy = .dropUntilNextKeyframe) (fine : subscriber.overflowed = false)
    (frame : MediaFrame P) : Resumes subscriber (subscriber.offered frame) frame := by
  unfold offered offer
  rw [fine, Bool.false_or]
  by_cases passes : passesFilter subscriber.filter frame = true
  · rw [passes, Bool.not_true, if_neg Bool.false_ne_true]
    by_cases dropping : subscriber.droppingUntilKeyframe = true
    · rw [if_pos dropping]
      by_cases isKey : isKeyframe frame = true
      · rw [if_pos isKey]
        exact enqueue_resumes ⟨rfl, rfl, rfl⟩ rfl policy passes fun _ => isKey
      · rw [if_neg isKey]
        exact .skip passes rfl dropping
    · rw [if_neg dropping]
      exact enqueue_resumes (Alike.refl subscriber) rfl policy passes
        fun isDropping => absurd isDropping dropping
  · rw [Bool.not_eq_true] at passes
    rw [passes, Bool.not_false, if_pos rfl]
    exact .filtered passes rfl

theorem offered_fine {subscriber : SubscriberQueue P}
    (policy : subscriber.policy ≠ .disconnectOnOverflow) (fine : subscriber.overflowed = false)
    (frame : MediaFrame P) : (subscriber.offered frame).overflowed = false := by
  have enqueued (other : SubscriberQueue P) (otherPolicy : other.policy ≠ .disconnectOnOverflow)
      (otherFine : other.overflowed = false) : (other.enqueue frame).1.overflowed = false := by
    unfold enqueue
    split
    · split
      · exact otherFine
      · split <;> exact otherFine
      · rename_i disconnects
        exact absurd disconnects otherPolicy
    · exact otherFine
  unfold offered offer
  split
  · exact fine
  · split
    · split
      · exact enqueued _ policy fine
      · exact fine
    · exact enqueued _ policy fine

end SubscriberQueue

namespace Subscription

theorem passing_publish {before after : Subscription P} {frame : MediaFrame P}
    (published : after.published = before.published ++ [frame]) (filter : MediaFilter) :
    after.passing filter =
      before.passing filter ++ if passesFilter filter frame then [frame] else [] := by
  unfold passing
  rw [published, List.filter_append]
  congr 1
  cases passes : passesFilter filter frame <;> simp [passes]

theorem passing_same {before after : Subscription P}
    (published : after.published = before.published) (filter : MediaFilter) :
    after.passing filter = before.passing filter := by
  unfold passing
  rw [published]

/-- The queue is that of a subscriber that joined with the given one, has room
for what it holds and has not overflowed. -/
def Within (fresh : SubscriberQueue P) (subscription : Subscription P) : Prop :=
  forall subscriber, subscription.entry = some subscriber -> subscriber.Alike fresh ∧
    subscriber.overflowed = false ∧ subscriber.queue.length <= subscriber.capacity

/-- A subscriber waits for a keyframe after every gap. -/
structure Resuming (fresh : SubscriberQueue P) (subscription : Subscription P) : Prop where
  within : Within fresh subscription
  decodes : Exists fun front => Exists fun back =>
    Decodes fresh.filter subscription front back

/-- A subscriber that is gone misses every frame from then on. -/
theorem resuming_publish_none {fresh : SubscriberQueue P} {before after : Subscription P}
    {frame : MediaFrame P} (resuming : Resuming fresh before) (isEntry : before.entry = none)
    (gone : after.entry = none) (published : after.published = before.published ++ [frame])
    (delivered : after.delivered = before.delivered) : Resuming fresh after := by
  rcases resuming.decodes with ⟨front, back, decodes⟩
  have passing := passing_publish published fresh.filter
  have nothing := pending_of_none gone
  have empty := decodes.pending.trans (pending_of_none isEntry)
  have nobody (subscriber : SubscriberQueue P) (isAfter : after.entry = some subscriber) :
      False := by
    rw [gone] at isAfter
    cases isAfter
  refine ⟨fun subscriber isAfter => (nobody subscriber isAfter).elim, ?_⟩
  cases passes : passesFilter fresh.filter frame with
  | false =>
      rw [passes, if_neg Bool.false_ne_true, List.append_nil] at passing
      exact ⟨front, back, decodes.frames.trans passing.symm,
        decodes.delivered.trans delivered.symm, empty.trans nothing.symm,
        decodes.decodable, fun subscriber isAfter => (nobody subscriber isAfter).elim⟩
  | true =>
      rw [passes, if_pos rfl] at passing
      refine ⟨front, back ++ [(frame, false)],
        decodes.mark rfl decodes.decodable passing delivered ?_
          (fun impossible => by cases impossible)
          fun _ subscriber isAfter => (nobody subscriber isAfter).elim⟩
      rw [kept_append, empty, nothing]
      rfl

theorem resuming_publish {fresh : SubscriberQueue P} {before after : Subscription P}
    {frame : MediaFrame P} (policy : fresh.policy = .dropUntilNextKeyframe)
    (resuming : Resuming fresh before)
    (entry : after.entry = before.entry.map fun subscriber => subscriber.offered frame)
    (published : after.published = before.published ++ [frame])
    (delivered : after.delivered = before.delivered) : Resuming fresh after := by
  rcases resuming.decodes with ⟨front, back, decodes⟩
  have passing := passing_publish published fresh.filter
  cases isEntry : before.entry with
  | none =>
      rw [isEntry] at entry
      exact resuming_publish_none resuming isEntry entry published delivered
  | some subscriber =>
      rw [isEntry] at entry
      have now : after.entry = some (subscriber.offered frame) := entry
      have isPending := pending_of_some now
      have wasPending := decodes.pending.trans (pending_of_some isEntry)
      rcases resuming.within subscriber isEntry with ⟨alike, fine, room⟩
      have alikeNow := (subscriber.offered_alike frame).trans alike
      have fineNow := SubscriberQueue.offered_fine
        (by rw [alike.policy, policy]; decide) fine frame
      have waits := decodes.waits subscriber isEntry
      have within (roomNow : (subscriber.offered frame).queue.length <= subscriber.capacity) :
          Within fresh after := by
        intro other isOther
        rw [now] at isOther
        cases isOther
        rw [alikeNow.capacity, ← alike.capacity]
        exact ⟨alikeNow, fineNow, roomNow⟩
      rw [← alike.filter] at passing
      cases SubscriberQueue.offered_resumes (alike.policy.trans policy) fine frame with
      | filtered passes same =>
          rw [passes, if_neg Bool.false_ne_true, List.append_nil, alike.filter] at passing
          refine ⟨within (by rw [same]; exact room), front, back,
            decodes.frames.trans passing.symm, decodes.delivered.trans delivered.symm, ?_,
            decodes.decodable, ?_⟩
          · rw [wasPending, isPending, same]
          · intro other isOther gap
            rw [now, same] at isOther
            cases isOther
            exact waits gap
      | skip passes queue dropping =>
          rw [passes, if_pos rfl, alike.filter] at passing
          refine ⟨within (by rw [queue]; exact room), front, back ++ [(frame, false)],
            decodes.mark rfl decodes.decodable passing delivered ?_
              (fun impossible => by cases impossible) ?_⟩
          · rw [kept_append, wasPending, isPending, queue]
            exact List.append_nil _
          · intro _ other isOther
            rw [now] at isOther
            cases isOther
            exact dropping
      | append passes space wanted queue =>
          rw [passes, if_pos rfl, alike.filter] at passing
          refine ⟨within ?_, front, back ++ [(frame, true)],
            decodes.mark rfl decodes.decodable passing delivered ?_
              (fun _ gap => wanted (waits gap)) fun impossible => by cases impossible⟩
          · rw [queue, List.length_append]
            exact space
          · rw [kept_append, wasPending, isPending, queue]
            rfl
      | restart passes isKey queue =>
          rw [passes, if_pos rfl, alike.filter] at passing
          -- What the queue held is given up, so that the keyframe ends the gap.
          refine ⟨within ?_, front, givenUp back ++ [(frame, true)],
            decodes.mark (frames_givenUp back) ?_ passing delivered ?_ (fun _ _ => isKey)
              fun impossible => by cases impossible⟩
          · rw [queue]
            exact subscriber.capacity_pos
          · rw [decodable_append]
            exact ⟨(decodable_append.mp decodes.decodable).1, decodable_givenUp _ _⟩
          · rw [kept_append, kept_givenUp, isPending, queue]
            rfl

theorem resuming_step {fresh : SubscriberQueue P} {before after : Subscription P}
    (policy : fresh.policy = .dropUntilNextKeyframe) (resuming : Resuming fresh before)
    (effect : Effect before after) : Resuming fresh after := by
  rcases resuming.decodes with ⟨front, back, decodes⟩
  cases effect with
  | publish frame entry published delivered =>
      exact resuming_publish policy resuming entry published delivered
  | deliver subscriber frame rest isEntry fine isQueue entry published delivered =>
      rcases resuming.within subscriber isEntry with ⟨alike, _, room⟩
      have wasPending := (decodes.pending.trans (pending_of_some isEntry)).trans isQueue
      rcases kept_cons wasPending with ⟨skipped, later, split, none, left⟩
      refine ⟨fun other isOther => ?_, front ++ (skipped ++ [(frame, true)]), later, ?_, ?_, ?_, ?_,
        fun other isOther gap => ?_⟩
      · rw [entry] at isOther
        cases isOther
        rw [isQueue, List.length_cons] at room
        exact ⟨⟨alike.capacity, alike.policy, alike.filter⟩, fine, Nat.le_of_succ_le room⟩
      · rw [passing_same published, ← decodes.frames, split]
        simp
      · rw [kept_append, kept_append, decodes.delivered, none, delivered]
        rfl
      · rw [left, pending_of_some entry]
      · have decodable := decodes.decodable
        rw [split] at decodable
        simpa using decodable
      · rw [entry] at isOther
        cases isOther
        apply decodes.waits subscriber isEntry
        rw [split]
        simpa using gap
  | leave entry published delivered =>
      have gone := pending_of_none entry
      refine ⟨fun other isOther => ?_, front, givenUp back, ?_, ?_, ?_, ?_, fun other isOther => ?_⟩
      · rw [entry] at isOther
        cases isOther
      · rw [List.map_append, frames_givenUp, ← List.map_append, decodes.frames,
          passing_same published]
      · rw [decodes.delivered, delivered]
      · rw [kept_givenUp, gone]
      · rw [decodable_append]
        exact ⟨(decodable_append.mp decodes.decodable).1, decodable_givenUp _ _⟩
      · rw [entry] at isOther
        cases isOther
  | idle entry published delivered =>
      have same : after.pending = before.pending := by
        unfold pending
        rw [entry]
      refine ⟨fun other isOther => ?_, front, back, ?_, ?_, ?_, decodes.decodable,
        fun other isOther => ?_⟩
      · rw [entry] at isOther
        exact resuming.within other isOther
      · rw [decodes.frames, passing_same published]
      · rw [decodes.delivered, delivered]
      · rw [decodes.pending, same]
      · rw [entry] at isOther
        exact decodes.waits other isOther

theorem resuming_joined {fresh : SubscriberQueue P} (empty : fresh.queue = [])
    (fine : fresh.overflowed = false) : Resuming fresh (joined fresh) := by
  refine ⟨fun subscriber isEntry => ?_, [], [], rfl, rfl, ?_, trivial, fun _ _ impossible => ?_⟩
  · cases isEntry
    refine ⟨SubscriberQueue.Alike.refl fresh, fine, ?_⟩
    rw [empty]
    exact Nat.zero_le _
  · exact empty.symm
  · cases impossible

end Subscription

/-! ## Disconnecting -/

namespace SubscriberQueue

/-- What the policy does with a frame for a subscriber that is connected. -/
theorem offered_disconnects {subscriber : SubscriberQueue P}
    (policy : subscriber.policy = .disconnectOnOverflow) (fine : subscriber.overflowed = false)
    (ready : subscriber.droppingUntilKeyframe = false) (frame : MediaFrame P) :
    (subscriber.offered frame).droppingUntilKeyframe = false ∧
    (((subscriber.offered frame).overflowed = true ∧ (subscriber.offered frame).queue = []) ∨
      ((subscriber.offered frame).overflowed = false ∧ (subscriber.offered frame).queue =
        subscriber.queue ++ if passesFilter subscriber.filter frame then [frame] else [])) := by
  unfold offered offer
  rw [fine, Bool.false_or]
  by_cases passes : passesFilter subscriber.filter frame = true
  · rw [passes, Bool.not_true, if_neg Bool.false_ne_true, ready, if_neg Bool.false_ne_true]
    unfold enqueue
    rw [policy]
    split
    · exact ⟨ready, Or.inl ⟨rfl, rfl⟩⟩
    · exact ⟨ready, Or.inr ⟨fine, rfl⟩⟩
  · rw [Bool.not_eq_true] at passes
    rw [passes, Bool.not_false, if_pos rfl]
    exact ⟨ready, Or.inr ⟨fine, (List.append_nil _).symm⟩⟩

theorem offered_of_overflowed {subscriber : SubscriberQueue P}
    (spilled : subscriber.overflowed = true) (frame : MediaFrame P) :
    subscriber.offered frame = subscriber := by
  unfold offered offer
  rw [spilled, Bool.true_or, if_pos rfl]

end SubscriberQueue

namespace Subscription

/-- A subscriber that is connected has everything, one that is not has a
contiguous part from the start. -/
structure Contiguous (fresh : SubscriberQueue P) (subscription : Subscription P) : Prop where
  part : subscription.delivered <+: subscription.passing fresh.filter
  connected : forall subscriber, subscription.entry = some subscriber ->
    subscriber.Alike fresh ∧ subscriber.droppingUntilKeyframe = false ∧
    (subscriber.overflowed = true -> subscriber.queue = []) ∧
    (subscriber.overflowed = false ->
      subscription.delivered ++ subscriber.queue = subscription.passing fresh.filter)

theorem contiguous_step {fresh : SubscriberQueue P} {before after : Subscription P}
    (policy : fresh.policy = .disconnectOnOverflow) (contiguous : Contiguous fresh before)
    (effect : Effect before after) : Contiguous fresh after := by
  cases effect with
  | publish frame entry published delivered =>
      have passing := passing_publish published fresh.filter
      refine ⟨?_, fun subscriber isEntry => ?_⟩
      · rw [delivered, passing]
        exact contiguous.part.trans (List.prefix_append _ _)
      · rw [entry] at isEntry
        rcases Option.map_eq_some_iff.mp isEntry with ⟨earlier, wasEntry, rfl⟩
        rcases contiguous.connected earlier wasEntry with ⟨alike, ready, cleared, all⟩
        refine ⟨(earlier.offered_alike frame).trans alike, ?_⟩
        cases spilled : earlier.overflowed with
        | true =>
            rw [SubscriberQueue.offered_of_overflowed spilled]
            refine ⟨ready, cleared, fun fine => ?_⟩
            rw [spilled] at fine
            cases fine
        | false =>
            have offered := SubscriberQueue.offered_disconnects (alike.policy.trans policy) spilled
              ready frame
            refine ⟨offered.1, fun overNow => ?_, fun fineNow => ?_⟩
            · rcases offered.2 with ⟨_, empty⟩ | ⟨fine, _⟩
              · exact empty
              · rw [fine] at overNow
                cases overNow
            · rcases offered.2 with ⟨overNow, _⟩ | ⟨_, queue⟩
              · rw [overNow] at fineNow
                cases fineNow
              · rw [queue, delivered, passing, ← List.append_assoc, all spilled, alike.filter]
  | deliver subscriber frame rest isEntry fine isQueue entry published delivered =>
      rcases contiguous.connected subscriber isEntry with ⟨alike, ready, cleared, all⟩
      have whole := all fine
      rw [isQueue] at whole
      rw [← passing_same published] at whole
      refine ⟨⟨rest, ?_⟩, fun other isOther => ?_⟩
      · rw [delivered, ← whole, List.append_assoc]
        rfl
      · rw [entry] at isOther
        cases isOther
        refine ⟨⟨alike.capacity, alike.policy, alike.filter⟩, ready, fun spilled => ?_, fun _ => ?_⟩
        · have isOver : subscriber.overflowed = true := spilled
          rw [fine] at isOver
          cases isOver
        · rw [delivered, ← whole, List.append_assoc]
          rfl
  | leave entry published delivered =>
      refine ⟨?_, fun other isOther => ?_⟩
      · rw [delivered, passing_same published]
        exact contiguous.part
      · rw [entry] at isOther
        cases isOther
  | idle entry published delivered =>
      refine ⟨?_, fun other isOther => ?_⟩
      · rw [delivered, passing_same published]
        exact contiguous.part
      · rw [entry] at isOther
        rw [delivered, passing_same published]
        exact contiguous.connected other isOther

theorem contiguous_joined {fresh : SubscriberQueue P} (empty : fresh.queue = [])
    (ready : fresh.droppingUntilKeyframe = false) : Contiguous fresh (joined fresh) := by
  refine ⟨List.prefix_rfl, fun subscriber isEntry => ?_⟩
  cases isEntry
  exact ⟨SubscriberQueue.Alike.refl fresh, ready, fun _ => empty, fun _ => empty⟩

/-- What a subscriber is told once its queue has overflowed: the overflow, once,
and then only the end.  One that closes itself before is told the end only. -/
def Told (closed : Prop) (answers : List (Received P)) : Prop :=
  answers = [] ∨
  (Exists fun count =>
    answers = .error queueOverflow :: List.replicate count (.ok .endOfStream)) ∨
  (closed ∧ Exists fun count => answers = List.replicate count (.ok .endOfStream))

/-- A receive that was waiting at the overflow may still run out first. -/
def ToldLate (waited : Bool) (closed : Prop) (answers : List (Received P)) : Prop :=
  Told closed answers ∨
    waited = true ∧ Exists fun later => answers = .ok .timedOut :: later ∧ Told closed later

theorem Told.mono {closed later : Prop} {answers : List (Received P)} (told : Told closed answers)
    (implies : closed -> later) : Told later answers :=
  told.imp_right fun more => more.imp_right fun ends => ⟨implies ends.1, ends.2⟩

theorem ToldLate.mono {waited : Bool} {closed later : Prop} {answers : List (Received P)}
    (told : ToldLate waited closed answers) (implies : closed -> later) :
    ToldLate waited later answers := by
  rcases told with told | ⟨waits, rest, split, told⟩
  · exact Or.inl (told.mono implies)
  · exact Or.inr ⟨waits, rest, split, told.mono implies⟩

variable {subscription final : Subscription P} {moves : List (Move P)}

/-- An overflowed queue stays as it is. -/
theorem offered_stays {subscriber : SubscriberQueue P}
    (isEntry : subscription.entry = some subscriber) (spilled : subscriber.overflowed = true)
    (frame : MediaFrame P) :
    (subscription.entry.map fun subscriber => subscriber.offered frame) = some subscriber := by
  rw [isEntry, Option.map_some, SubscriberQueue.offered_of_overflowed spilled]

/-- Without a queue there is nothing but the end. -/
theorem ended_run (reached : machine.run subscription moves = some final)
    (gone : subscription.entry = none) (settled : subscription.waiting = false) :
    Exists fun count =>
      final.received = subscription.received ++ List.replicate count (.ok .endOfStream) := by
  induction moves generalizing subscription with
  | nil =>
      cases reached
      exact ⟨0, (List.append_nil _).symm⟩
  | cons move moves ih =>
      rcases machine.run_cons_iff.mp reached with ⟨next, stepped, rest⟩
      have receives (ended patient : Bool) :
          subscription.receiveLocked ended patient = subscription.answer (.ok .endOfStream) := by
        unfold receiveLocked
        rw [gone]
      cases step_cases stepped with
      | publish frame =>
          have still : (subscription.entry.map fun entry => entry.offered frame) = none := by
            rw [gone]
            rfl
          have later := ih rest still settled
          exact later
      | receive _ ended patient =>
          rw [receives] at rest
          rcases ih rest gone rfl with ⟨count, isFinal⟩
          refine ⟨count + 1, ?_⟩
          rw [isFinal, List.replicate_succ]
          exact List.append_assoc _ _ _
      | close =>
          have later := ih rest rfl settled
          exact later
      | wake waits _ _ | expire waits =>
          rw [settled] at waits
          cases waits

variable {subscriber : SubscriberQueue P}

theorem receiveLocked_overflowed (isEntry : subscription.entry = some subscriber)
    (spilled : subscriber.overflowed = true) (ended patient : Bool) :
    subscription.receiveLocked ended patient =
      { subscription with entry := none }.answer (.error queueOverflow) := by
  unfold receiveLocked
  rw [isEntry]
  exact if_pos spilled

/-- The next receive reports the overflow. -/
theorem overflowed_run (reached : machine.run subscription moves = some final)
    (isEntry : subscription.entry = some subscriber) (spilled : subscriber.overflowed = true)
    (settled : subscription.waiting = false) :
    Exists fun answers => final.received = subscription.received ++ answers ∧
      Told (.close ∈ moves) answers := by
  induction moves generalizing subscription with
  | nil =>
      cases reached
      exact ⟨[], (List.append_nil _).symm, Or.inl rfl⟩
  | cons move moves ih =>
      rcases machine.run_cons_iff.mp reached with ⟨next, stepped, rest⟩
      cases step_cases stepped with
      | publish frame =>
          rcases ih rest (offered_stays isEntry spilled frame) settled with ⟨answers, isFinal, told⟩
          exact ⟨answers, isFinal, told.mono (List.mem_cons_of_mem _)⟩
      | receive _ ended patient =>
          rw [receiveLocked_overflowed isEntry spilled] at rest
          rcases ended_run rest rfl rfl with ⟨count, isFinal⟩
          refine ⟨_, ?_, Or.inr (Or.inl ⟨count, rfl⟩)⟩
          rw [isFinal]
          exact List.append_assoc _ _ _
      | close =>
          rcases ended_run rest rfl settled with ⟨count, isFinal⟩
          exact ⟨_, isFinal, Or.inr (Or.inr ⟨List.mem_cons_self, count, rfl⟩)⟩
      | wake waits _ _ | expire waits =>
          rw [settled] at waits
          cases waits

/-- The same after every run from an overflow on. -/
theorem overflow_told (reached : machine.run subscription moves = some final)
    (isEntry : subscription.entry = some subscriber) (spilled : subscriber.overflowed = true) :
    Exists fun answers => final.received = subscription.received ++ answers ∧
      ToldLate subscription.waiting (.close ∈ moves) answers := by
  induction moves generalizing subscription with
  | nil =>
      cases reached
      exact ⟨[], (List.append_nil _).symm, Or.inl (Or.inl rfl)⟩
  | cons move moves ih =>
      cases waits : subscription.waiting with
      | false =>
          rcases overflowed_run reached isEntry spilled waits with ⟨answers, isFinal, told⟩
          exact ⟨answers, isFinal, Or.inl told⟩
      | true =>
          rcases machine.run_cons_iff.mp reached with ⟨next, stepped, rest⟩
          cases step_cases stepped with
          | publish frame =>
              rcases ih rest (offered_stays isEntry spilled frame) with ⟨answers, isFinal, told⟩
              refine ⟨answers, isFinal, ?_⟩
              rw [← waits]
              exact told.mono (List.mem_cons_of_mem _)
          | wake _ ended patient =>
              rw [receiveLocked_overflowed isEntry spilled] at rest
              rcases ended_run rest rfl rfl with ⟨count, isFinal⟩
              refine ⟨_, ?_, Or.inl (Or.inr (Or.inl ⟨count, rfl⟩))⟩
              rw [isFinal]
              exact List.append_assoc _ _ _
          | expire =>
              rcases overflowed_run rest isEntry spilled rfl with ⟨answers, isFinal, told⟩
              refine ⟨.ok .timedOut :: answers, ?_,
                Or.inr ⟨rfl, answers, rfl, told.mono (List.mem_cons_of_mem _)⟩⟩
              rw [isFinal]
              exact List.append_assoc _ _ _
          | receive settled _ _ | close settled =>
              rw [waits] at settled
              cases settled

end Subscription

end Stream
end DyunGu

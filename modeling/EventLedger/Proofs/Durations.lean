import EventLedger.Proofs.Independence
import Mathlib.Data.List.Forall2

/-!
# What the duration of a message covers

The duration of a message runs from its receipt to its outcome: it is over before the queue is told.
It is therefore a function of the message, of its store and of the limit, and however long earlier
settlements have taken, and whether they have failed, it is measured the same. Runs whose
settlements go differently deal with the messages of both queues in another order and at other
times, but a message of a queue has its place there in both.
-/
namespace EventLedger

/-- The durations of the messages of a queue, in order. -/
def Journal.durationsFrom (kind : EventKind) (journal : Journal) : List Nat :=
  ((journal.ofQueue kind).filterMap Occurrence.measurement?).map Measurement.millis

namespace Consumer

/-! ## One message -/

/-- A message takes so many milliseconds: reading its body takes none, and storing its event takes
as long as the store needs for its answer, within the limit. -/
structure Handling.Lasts (consumer : Consumer) (handling : Handling) (millis : Nat) : Prop where
  /-- A body that is no event takes no time. -/
  invalid : ∀ cause, Rejects handling.delivery.kind handling.delivery.body cause → millis = 0
  /-- An event takes the time until the answer of its store, or all the time that there is. -/
  answered : ∀ event delay, Decodes handling.delivery.kind handling.delivery.body event →
    (handling.store event).delay = some delay → millis = min delay consumer.timeLimit
  /-- It takes all the time that there is if the store never answers. -/
  unanswered : ∀ event, Decodes handling.delivery.kind handling.delivery.body event →
    (handling.store event).delay = none → millis = consumer.timeLimit
  /-- There is never more of it. -/
  bounded : millis ≤ consumer.timeLimit

/-- A call of a store ends with the limit. -/
theorem StoreResponse.millisWithin_le (response : StoreResponse) (timeLimit : Nat) :
    response.millisWithin timeLimit ≤ timeLimit := by
  unfold millisWithin
  cases response.delay with
  | none => exact Nat.le_refl timeLimit
  | some delay => exact Nat.min_le_right delay timeLimit

/-- A message takes as long as it should. -/
theorem Handling.lasts_millis (consumer : Consumer) (handling : Handling) :
    handling.Lasts consumer (handling.millis consumer) where
  invalid cause rejects := by
    have refused := Event.ofBody_eq_error.mpr rejects
    simp only [millis, refused]
  answered event delay decodes due := by
    have read := Event.ofBody_eq_ok.mpr decodes
    simp only [millis, read, StoreResponse.millisWithin, due]
  unanswered event decodes never := by
    have read := Event.ofBody_eq_ok.mpr decodes
    simp only [millis, read, StoreResponse.millisWithin, never]
  bounded := by
    unfold millis
    cases Event.ofBody handling.delivery.kind handling.delivery.body with
    | error cause => exact Nat.zero_le _
    | ok event => exact (handling.store event).millisWithin_le consumer.timeLimit

/-! ## One run -/

/-- How long an item takes, if it is a message. -/
def Serving.millis? (consumer : Consumer) (serving : Serving) : Option Nat :=
  serving.handling?.map (Handling.millis consumer)

/-- A message is measured once, with its duration. -/
theorem Serving.map_millis_measurement? (consumer : Consumer) (serving : Serving) :
    (serving.measurement? consumer).map Measurement.millis = serving.millis? consumer := by
  unfold measurement? millis?
  cases serving.handling? <;> rfl

/-- What is measured of an item is measured after it has been taken. -/
theorem Serving.measurements_doings (consumer : Consumer) (serving : Serving) :
    (serving.doings consumer).filterMap Occurrence.measurement? =
      (serving.measurement? consumer).toList := by
  have blind : ∀ what : Occurrence, what.isFrame = false → what.measurement? = none := by
    intro what other
    cases what <;> first | rfl | cases other
  rw [← serving.measurements_frame consumer, ← serving.filterMap_notes consumer blind]
  rfl

/-- The durations of the messages among some items. -/
theorem map_millis_measurements (consumer : Consumer) (servings : List Serving) :
    (servings.filterMap (Serving.measurement? consumer)).map Measurement.millis =
      servings.filterMap (Serving.millis? consumer) := by
  rw [List.map_filterMap]
  simp only [Serving.map_millis_measurement?]

/-- Each message among some items takes as long as it should. -/
theorem forall₂_lasts (consumer : Consumer) (servings : List Serving) :
    List.Forall₂ (Handling.Lasts consumer) (servings.filterMap Serving.handling?)
      (servings.filterMap (Serving.millis? consumer)) := by
  have durations : servings.filterMap (Serving.millis? consumer) =
      (servings.filterMap Serving.handling?).map (Handling.millis consumer) :=
    (List.map_filterMap ..).symm
  rw [durations, List.forall₂_map_right_iff, List.forall₂_same]
  exact fun handling _ => handling.lasts_millis consumer

/-- A run measures the items that its feed hands out. -/
structure Measures (feed : Feed) (consumer : Consumer) (servings : List Serving)
    (journal : Journal) : Prop where
  /-- The items are those that the feed hands out. -/
  handed : feed.HandsOut [] servings
  /-- They are taken one after another. -/
  taken : journal.takings = servings.map Serving.kind
  /-- The durations measured for a queue are those of its messages, in order. -/
  own : ∀ kind, List.Forall₂ (Handling.Lasts consumer)
    ((fromQueue kind servings).filterMap Serving.handling?) (journal.durationsFrom kind)
  /-- The durations counted under a name are those of the messages from queues of that name. -/
  counted : ∀ queue, List.Forall₂ (Handling.Lasts consumer)
    ((servings.filter (consumer.queueName ·.kind = queue)).filterMap Serving.handling?)
    ((Metrics.ofJournal journal).durationsOf queue)

namespace Recounts

variable {feed : Feed} {consumer : Consumer} {taken : List EventKind} {servings : List Serving}
  {run : Run Feed.Progress}

/-- The durations of a queue are those of its items. -/
theorem durationsFrom_eq (recounts : Recounts feed consumer taken servings run)
    (kind : EventKind) :
    run.journal.durationsFrom kind =
      (fromQueue kind servings).filterMap (Serving.millis? consumer) := by
  rw [Journal.durationsFrom, recounts.ofQueue_eq, List.filterMap_flatMap]
  simp only [Serving.measurements_doings]
  rw [← List.filterMap_eq_flatMap_toList, map_millis_measurements]

/-- The durations under a name are those of the items from queues of that name. -/
theorem durationsOf_eq (recounts : Recounts feed consumer taken servings run) (queue : String) :
    (Metrics.ofJournal run.journal).durationsOf queue =
      (servings.filter (consumer.queueName ·.kind = queue)).filterMap
        (Serving.millis? consumer) := by
  rw [Metrics.durationsOf_ofJournal, recounts.measurements_eq, ← map_millis_measurements,
    List.filter_filterMap, List.filterMap_filter]
  congr 1
  refine List.filterMap_congr fun serving _ => ?_
  unfold Serving.measurement?
  cases serving.handling? with
  | none => simp
  | some handling => simp [Option.filter]

/-- Every run measures what it takes. -/
theorem measures (recounts : Recounts feed consumer [] servings run) :
    Measures feed consumer servings run.journal where
  handed := recounts.handed
  taken := recounts.takings_eq
  own kind := by
    rw [recounts.durationsFrom_eq]
    exact forall₂_lasts consumer _
  counted queue := by
    rw [recounts.durationsOf_eq]
    exact forall₂_lasts consumer _

/-- The durations under a name are, in some order, those of the queues of that name. -/
theorem durationsOf_perm (recounts : Recounts feed consumer taken servings run) (queue : String) :
    ((Metrics.ofJournal run.journal).durationsOf queue).Perm
      ([EventKind.usage, .audit].flatMap fun kind =>
        if consumer.queueName kind = queue then run.journal.durationsFrom kind else []) := by
  have parts : ∀ kind, (fromQueue kind servings).filter (consumer.queueName ·.kind = queue) =
      if consumer.queueName kind = queue then fromQueue kind servings else [] := by
    intro kind
    have own : ∀ serving ∈ fromQueue kind servings, serving.kind = kind := fun serving among =>
      of_decide_eq_true (List.mem_filter.mp among).2
    by_cases named : consumer.queueName kind = queue
    · rw [if_pos named, List.filter_eq_self]
      intro serving among
      rw [own serving among]
      exact decide_eq_true named
    · rw [if_neg named, List.filter_eq_nil_iff]
      intro serving among
      rw [own serving among]
      simpa using named
  have both := (fromQueue_append_perm servings).symm.filter (consumer.queueName ·.kind = queue)
  rw [List.filter_append, parts, parts] at both
  rw [recounts.durationsOf_eq]
  refine (both.filterMap (Serving.millis? consumer)).trans (List.Perm.of_eq ?_)
  rw [List.filterMap_append, List.flatMap_cons, List.flatMap_cons, List.flatMap_nil,
    List.append_nil]
  simp only [recounts.durationsFrom_eq, apply_ite (List.filterMap (Serving.millis? consumer)),
    List.filterMap_nil]

/-- If the queues have different names, the durations under a name are those of its queue. -/
theorem durationsOf_queueName (recounts : Recounts feed consumer taken servings run)
    (distinct : consumer.usageQueue ≠ consumer.auditQueue) (kind : EventKind) :
    (Metrics.ofJournal run.journal).durationsOf (consumer.queueName kind) =
      run.journal.durationsFrom kind := by
  rw [recounts.durationsOf_eq, recounts.durationsFrom_eq, fromQueue]
  congr 2
  funext serving
  simp only [queueName_inj distinct]

end Recounts

/-! ## Two runs -/

/-- Two items are the same but for what happens when they are settled. -/
inductive Item.SameBeforeSettling : Item → Item → Prop where
  /-- Messages with the same number, body and store. -/
  | message (tag : Nat) (body : Json.Bytes) (store : Event → StoreResponse)
      (settlement other : Settlement) :
      SameBeforeSettling (.message tag body store settlement) (.message tag body store other)
  /-- The same failure. -/
  | failure (reason : String) : SameBeforeSettling (.failure reason) (.failure reason)
  /-- The end of the deliveries. -/
  | closed : SameBeforeSettling .closed .closed

namespace Feed

/-- Two feeds hand out the same items but for how their settlement goes. The items may be ready at
other times, and the loop may choose otherwise. -/
def SameBeforeSettling (feed other : Feed) : Prop :=
  ∀ kind place, Option.Rel (fun offer later => offer.item.SameBeforeSettling later.item)
    (feed.offer kind place) (other.offer kind place)

/-- A queue hands out a delivery at a place: there is none before it at which it is silent. -/
structure Delivers (feed : Feed) (kind : EventKind) (place : Nat) (handling : Handling) :
    Prop where
  /-- The queue hands out something at each place before. -/
  reached : ∀ earlier < place, (feed.offer kind earlier).isSome
  /-- It hands out the delivery at the place. -/
  here : feed.handling? kind place = some handling

/-- Every delivery of both queues is dispatched in a run. -/
def DispatchesAll (feed : Feed) (journal : Journal) : Prop :=
  ∀ kind place handling, feed.Delivers kind place handling → place < journal.takings.count kind

end Feed

/-- Lists that give the same at each place give the same on the whole. -/
theorem filterMap_eq_of_getElem? {α β : Type} {f : α → Option β} {first second : List α}
    (same : ∀ place : Nat, first[place]?.bind f = second[place]?.bind f) :
    first.filterMap f = second.filterMap f := by
  have silent : ∀ {list : List α}, (∀ place : Nat, list[place]?.bind f = none) →
      list.filterMap f = [] := by
    intro list none
    rw [List.filterMap_eq_nil_iff]
    intro value among
    obtain ⟨place, found⟩ := List.mem_iff_getElem?.mp among
    simpa [found] using none place
  induction first generalizing second with
  | nil =>
    rw [silent fun place => (same place).symm]
    rfl
  | cons value rest ih =>
    cases second with
    | nil => exact silent same
    | cons other others =>
      have head : f value = f other := same 0
      rw [List.filterMap_cons, List.filterMap_cons, head, ih fun place => same (place + 1)]

/-- When every delivery is dispatched, what is measured of a queue at a place is the delivery that
the queue hands out there. -/
theorem Recounts.millis?_eq_some {feed : Feed} {consumer : Consumer} {servings : List Serving}
    {run : Run Feed.Progress} (recounts : Recounts feed consumer [] servings run)
    (all : feed.DispatchesAll run.journal) {kind : EventKind} {place millis : Nat} :
    (fromQueue kind servings)[place]?.bind (Serving.millis? consumer) = some millis ↔
      ∃ handling, feed.Delivers kind place handling ∧ handling.millis consumer = millis := by
  have offered : ∀ {place serving}, (fromQueue kind servings)[place]? = some serving →
      ∃ offer, feed.offer kind place = some offer ∧ serving = ⟨kind, offer.item⟩ := by
    intro place serving found
    simpa using recounts.handed.offer_of_getElem? found
  constructor
  · intro measured
    obtain ⟨serving, found, lasting⟩ := Option.bind_eq_some_iff.mp measured
    obtain ⟨handling, message, took⟩ := Option.map_eq_some_iff.mp lasting
    have within : place < (fromQueue kind servings).length :=
      (List.getElem?_eq_some_iff.mp found).1
    obtain ⟨offer, here, rfl⟩ := offered found
    refine ⟨handling, ⟨fun earlier before => ?_, ?_⟩, took⟩
    · have still : earlier < (fromQueue kind servings).length := by omega
      obtain ⟨other, held, _⟩ := offered (List.getElem?_eq_getElem still)
      rw [held]
      rfl
    · rw [Feed.handling?, here]
      exact message
  · rintro ⟨handling, delivers, took⟩
    have within := all kind place handling delivers
    rw [recounts.count_takings] at within
    have found := List.getElem?_eq_getElem within
    obtain ⟨offer, here, own⟩ := offered found
    have message : offer.item.handling? kind = some handling := by
      have delivered := delivers.here
      rwa [Feed.handling?, here] at delivered
    rw [found, own, Option.bind_some, Serving.millis?, Serving.handling?, message, Option.map_some,
      took]

/-- Items are the same in both directions. -/
theorem Item.SameBeforeSettling.symm {item other : Item} (same : item.SameBeforeSettling other) :
    other.SameBeforeSettling item := by
  cases same with
  | message tag body store settlement another => exact .message tag body store another settlement
  | failure reason => exact .failure reason
  | closed => exact .closed

/-- Settling has no part in the duration of a message. -/
theorem Item.SameBeforeSettling.handling? {item other : Item}
    (same : item.SameBeforeSettling other) {kind : EventKind} {handling : Handling}
    (message : item.handling? kind = some handling) (consumer : Consumer) :
    ∃ later, other.handling? kind = some later ∧
      later.millis consumer = handling.millis consumer := by
  cases same with
  | message tag body store settlement another =>
    obtain rfl := Option.some.inj message
    exact ⟨_, rfl, rfl⟩
  | failure reason => cases message
  | closed => cases message

namespace Feed.SameBeforeSettling

variable {feed other : Feed}

/-- Feeds are the same in both directions. -/
theorem symm (same : feed.SameBeforeSettling other) : other.SameBeforeSettling feed := by
  intro kind place
  have here := same kind place
  generalize feed.offer kind place = offer, other.offer kind place = later at here ⊢
  cases here with
  | none => exact .none
  | some alike => exact .some alike.symm

/-- Where one feed hands out something, the other one does. -/
theorem isSome (same : feed.SameBeforeSettling other) {kind : EventKind} {place : Nat}
    (offers : (feed.offer kind place).isSome) : (other.offer kind place).isSome := by
  have here := same kind place
  generalize feed.offer kind place = offer, other.offer kind place = later at here offers ⊢
  cases here with
  | none => cases offers
  | some alike => rfl

/-- A delivery of one feed is one of the other, with the same duration. -/
theorem delivers (same : feed.SameBeforeSettling other) {kind : EventKind} {place : Nat}
    {handling : Handling} (delivers : feed.Delivers kind place handling) (consumer : Consumer) :
    ∃ later, other.Delivers kind place later ∧
      later.millis consumer = handling.millis consumer := by
  obtain ⟨reached, found⟩ := delivers
  have here := same kind place
  obtain ⟨offer, offered, message⟩ := Option.bind_eq_some_iff.mp found
  cases also : other.offer kind place with
  | none => simp [offered, also] at here
  | some later =>
    rw [offered, also, Option.rel_some_some] at here
    obtain ⟨handling', message', took⟩ := here.handling? message consumer
    refine ⟨handling', ⟨fun earlier before => same.isSome (reached earlier before), ?_⟩, took⟩
    rw [handling?, also]
    exact message'

end Feed.SameBeforeSettling

/-- The durations are the same in two journals. -/
structure SameDurations (consumer : Consumer) (first second : Journal) : Prop where
  /-- The messages of each queue took the same times. -/
  own : ∀ kind, first.durationsFrom kind = second.durationsFrom kind
  /-- If the queues have different names, they are counted so under these. -/
  counted : consumer.usageQueue ≠ consumer.auditQueue → ∀ kind,
    (Metrics.ofJournal first).durationsOf (consumer.queueName kind) =
      (Metrics.ofJournal second).durationsOf (consumer.queueName kind)
  /-- Under every name the same durations are counted, in some order. -/
  mixed : ∀ queue, ((Metrics.ofJournal first).durationsOf queue).Perm
    ((Metrics.ofJournal second).durationsOf queue)

section TwoRuns

variable {feed other : Feed} {consumer : Consumer} {servings others : List Serving}
  {run later : Run Feed.Progress} (recounts : Recounts feed consumer [] servings run)
  (also : Recounts other consumer [] others later)
include recounts also

/-- The messages of a queue take the same times in two runs that dispatch all of them. -/
theorem Recounts.durationsFrom_congr (same : feed.SameBeforeSettling other)
    (all : feed.DispatchesAll run.journal) (everything : other.DispatchesAll later.journal)
    (kind : EventKind) : run.journal.durationsFrom kind = later.journal.durationsFrom kind := by
  rw [recounts.durationsFrom_eq, also.durationsFrom_eq]
  refine filterMap_eq_of_getElem? fun place => Option.ext fun millis => ?_
  rw [recounts.millis?_eq_some all, also.millis?_eq_some everything]
  constructor
  · rintro ⟨handling, delivers, rfl⟩
    exact same.delivers delivers consumer
  · rintro ⟨handling, delivers, rfl⟩
    exact same.symm.delivers delivers consumer

/-- What is counted follows from the durations of the queues. -/
theorem Recounts.sameDurations
    (own : ∀ kind, run.journal.durationsFrom kind = later.journal.durationsFrom kind) :
    SameDurations consumer run.journal later.journal where
  own := own
  counted distinct kind := by
    rw [recounts.durationsOf_queueName distinct, also.durationsOf_queueName distinct, own]
  mixed queue := by
    have parts := recounts.durationsOf_perm queue
    simp only [own] at parts
    exact parts.trans (also.durationsOf_perm queue).symm

end TwoRuns

/-- The durations of a run are those of reading the bodies and storing the events of its messages,
within the limit; and another run whose feed differs in nothing but settlements has the same
durations, if both runs dispatch every delivery. -/
theorem durations_spare_settlements (consumer : Consumer) (feed : Feed) (turns : Nat)
    (world : World) :
    let run := feed.run consumer turns [] world
    (∃ servings, Measures feed consumer servings run.journal) ∧
      ∀ (other : Feed) (more : Nat) (begun : World),
        let later := other.run consumer more [] begun
        feed.SameBeforeSettling other → feed.DispatchesAll run.journal →
          other.DispatchesAll later.journal →
            SameDurations consumer run.journal later.journal := by
  intro run
  obtain ⟨servings, recounts⟩ := feed.run_recounts consumer turns [] world
  refine ⟨⟨servings, recounts.measures⟩, ?_⟩
  intro other more begun later same all everything
  obtain ⟨others, also⟩ := other.run_recounts consumer more [] begun
  have own := recounts.durationsFrom_congr also same all everything
  exact recounts.sameDurations also own

namespace Traffic

variable {traffic : Traffic} {timetable : Timetable}

/-- The same traffic with other settlements. -/
def settling (traffic : Traffic) (settle : Message → Settlement) : Traffic where
  messages kind := (traffic.messages kind).map fun message =>
    { message with settlement := settle message }
  store := traffic.store

/-- Nothing else is changed by it, whatever the timetables are. -/
theorem settling_sameBeforeSettling (traffic : Traffic) (settle : Message → Settlement)
    (timetable other : Timetable) :
    (traffic.feed timetable).SameBeforeSettling ((traffic.settling settle).feed other) := by
  intro kind place
  simp only [feed, settling, List.getElem?_map]
  cases (traffic.messages kind)[place]? with
  | none => exact .none
  | some message => exact .some (.message ..)

/-- When all messages have been taken, every delivery has been dispatched. -/
theorem AllTaken.dispatchesAll {journal : Journal} (taken : traffic.AllTaken journal) :
    (traffic.feed timetable).DispatchesAll journal := by
  intro kind place handling delivers
  obtain ⟨offer, offered, _⟩ := Option.bind_eq_some_iff.mp delivers.here
  obtain ⟨message, held, _⟩ := Option.map_eq_some_iff.mp offered
  have within : place < (traffic.messages kind).length := (List.getElem?_eq_some_iff.mp held).1
  have many := taken kind
  omega

end Traffic

/-- A few messages are settled slowly, and their settlements fail: they are dealt with at other
times, and last as long as before. -/
theorem few_messages_last_as_long :
    let consumer : Consumer := { usageQueue := "usage", auditQueue := "audit", timeLimit := 500 }
    let world := { World.start with planned := some (900, .stop) }
    let slow := Traffic.few.settling fun message =>
      { stops := false, delay := 100 * message.tag, failure := some "connection closed" }
    let run := (Traffic.few.feed .usageFirst).run consumer 9 [] world
    let later := (slow.feed .usageFirst).run consumer 9 [] world
    run.journal.durationsFrom .audit = [5] ∧
      run.journal.map Entry.time ≠ later.journal.map Entry.time ∧
      SameDurations consumer run.journal later.journal := by
  intro consumer world slow run later
  have taken : Traffic.few.AllTaken run.journal := by decide +kernel
  have takenSlowly : slow.AllTaken later.journal := by decide +kernel
  have same := Traffic.few.settling_sameBeforeSettling
    (fun message =>
      { stops := false, delay := 100 * message.tag, failure := some "connection closed" })
    .usageFirst .usageFirst
  refine ⟨by decide +kernel, by decide +kernel, ?_⟩
  exact (durations_spare_settlements consumer _ 9 world).2 _ 9 world same taken.dispatchesAll
    takenSlowly.dispatchesAll

end Consumer

end EventLedger

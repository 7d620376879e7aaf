import EventLedger.Broker.Verdict
import EventLedger.Proofs.Absence
import EventLedger.Proofs.Independence
import EventLedger.Proofs.Lifetime
import EventLedger.Proofs.Session

/-!
# What the broker is told

A visit asks for what it needs, one thing after another, and stops at the first request that is
refused or gets no answer: `Prepares` has a case for each of these. Only when all is granted,
deliveries are taken. Since the numbers of deliveries differ, a verdict on one is on no other.
-/
namespace EventLedger

open Consumer (Serving Handling Feed SettlesInTurn Traffic isTaking only_isTaking receipt?)

/-! ## Requests -/

/-- Whether something is asked of the broker. -/
def isRequest : Occurrence → Bool
  | .requested _ => true
  | _ => false

/-- Neither signals nor what a store says are requests. -/
theorem isSilent_isRequest : Consumer.IsSilent isRequest := ⟨fun _ _ => rfl, fun _ => rfl⟩

/-- A request belongs to no loop. -/
theorem isOfLoop_of_isRequest (what : Occurrence) (request : isRequest what = true) :
    what.isOfLoop = false := by
  cases what <;> first | rfl | cases request

namespace Journal

/-- The requests of one journal come before those of a later one. -/
@[simp]
theorem requests_append (first second : Journal) :
    requests (first ++ second) = first.requests ++ second.requests := List.filterMap_append

/-- The request that is sent, if one is. -/
def request? : Occurrence → Option Broker.Request
  | .requested request => some request
  | _ => none

/-- Without any request, nothing is asked for. -/
theorem requests_eq_nil {journal : Journal} (none : journal.only isRequest = []) :
    journal.requests = [] := by
  have blind : ∀ what, isRequest what = false → request? what = Option.none := by
    intro what other
    cases what <;> first | rfl | cases other
  have viewed : journal.requests = (journal.only isRequest).filterMap request? :=
    filterMap_only blind journal
  rw [viewed, none]
  rfl

end Journal

namespace Broker

/-- What the worker asks for, in order: a connection to its virtual host and a channel on it, a
bound on deliveries that are not settled, two queues that last and that others may use, and their
deliveries, each of which is to be settled. -/
def agreedRequests (consumer : Consumer) (prefetch : UInt16) : List Request :=
  let queue (name : String) : Request := .declare name
    { passive := false, durable := true, exclusive := false, autoDelete := false, noWait := false }
  let deliveries (name : String) : Request := .consume name ""
    { noLocal := false, noAck := false, exclusive := false, noWait := false }
  [.connect consumer.virtualHost, .channel, .limit prefetch, queue consumer.usageQueue,
    queue consumer.auditQueue, deliveries consumer.usageQueue, deliveries consumer.auditQueue]

/-- A session is set up by the requests that are agreed on. -/
theorem setUp_eq_agreedRequests (consumer : Consumer) (prefetch : UInt16) :
    setUp prefetch consumer.virtualHost consumer.usageQueue consumer.auditQueue =
      agreedRequests consumer prefetch := rfl

/-- The first two requests that are agreed on are made before there is a channel. -/
theorem precedesChannel_agreedRequests {consumer : Consumer} {prefetch : UInt16} {place : Nat}
    {request : Request} (is : (agreedRequests consumer prefetch)[place]? = some request) :
    Session.precedesChannel request = decide (place < 2) := by
  rcases place with _ | _ | _ | _ | _ | _ | _ | place <;> cases is <;> rfl

/-- What becomes of a request. -/
inductive Reaction where
  /-- It is granted. -/
  | granted
  /-- It is refused for a reason. -/
  | refused (reason : String)
  /-- It gets no answer. -/
  | ignored

namespace Visit

variable (visit : Visit)

/-- What becomes of the request at a place. -/
def reaction (place : Nat) : Reaction :=
  match (visit.answer place).delay, (visit.answer place).refusal with
  | none, _ => .ignored
  | some _, some reason => .refused reason
  | some _, none => .granted

/-- In a part of a visit some requests are sent, and nothing is taken. -/
structure Asks (requests : List Request) (journal : Journal) : Prop where
  /-- These are the requests. -/
  requests : journal.requests = requests
  /-- Nothing is done with deliveries. -/
  deeds : journal.deeds = []

/-- Requests that are sent in one part after another are sent. -/
theorem Asks.append {requests more : List Request} {first second : Journal}
    (asks : Asks requests first) (also : Asks more second) :
    Asks (requests ++ more) (first ++ second) where
  requests := by rw [Journal.requests_append, asks.requests, also.requests]
  deeds := by
    rw [Journal.deeds, Journal.only_append]
    exact List.append_eq_nil_iff.mpr ⟨asks.deeds, also.deeds⟩

/-- A plain run that lacks requests asks for nothing. -/
theorem Asks.of_plain {α : Type} {run : Sim α} (plain : run.Plain) (lacks : run.Lacks isRequest)
    (world : World) : Asks [] (run world).journal where
  requests := Journal.requests_eq_nil (lacks world)
  deeds := plain.deeds world

/-- A request is asked for when it is sent. -/
theorem asks_requested (request : Request) (world : World) :
    Asks [request] (Sim.happen (.requested request) world).journal := ⟨rfl, rfl⟩

/-- Waiting asks for nothing. -/
theorem asks_wait (millis : Nat) (world : World) : Asks [] (Sim.wait millis world).journal :=
  .of_plain (.wait millis) (.wait isSilent_isRequest millis) world

/-- That a request is granted is told without another request. -/
theorem asks_reportGranted (request : Request) (world : World) :
    Asks [] (Session.reportGranted request world).journal :=
  .of_plain (plain_reportGranted request) (lacks_reportGranted isSilent_isRequest request) world

/-- A visit that ends at a refusal asks for nothing more. -/
theorem asks_endRefused (request : Request) (reason : String) (world : World) :
    Asks [] (visit.endRefused request reason world).journal :=
  .of_plain (visit.plain_endRefused request reason)
    (visit.lacks_endRefused isSilent_isRequest rfl request reason) world

/-- A visit that is refused ends with the reason, at once or after it has left. -/
theorem endRefused_value_eq (request : Request) (reason : String) (world : World) :
    (visit.endRefused request reason world).value =
      if Session.precedesChannel request then some (.error (.broker reason))
      else visit.leaving.map fun _ => .error (.broker reason) := by
  unfold endRefused
  cases Session.precedesChannel request with
  | true => rfl
  | false => exact visit.leave_value _ world

/-! ## Preparation -/

variable {visit} {goOn : Sim (Option (Except WorkerError Unit))}

/-- How the preparation of a visit can go that asks for things from the one at a place on. -/
inductive Prepares (visit : Visit) (goOn : Sim (Option (Except WorkerError Unit))) (place : Nat)
    (requests : List Request) : Run (Option (Except WorkerError Unit)) → Prop where
  /-- All is granted, and the visit goes on. -/
  | granted (asked : Run Unit)
      (all : ∀ index < requests.length, visit.reaction (place + index) = .granted)
      (asks : Asks requests asked.journal) :
      Prepares visit goOn place requests (asked.andThen (goOn asked.world))
  /-- A request is refused, and is the last one. -/
  | refused (index : Nat) (asked : Run Unit) {request : Request} {reason : String}
      (is : requests[index]? = some request)
      (earlier : ∀ before < index, visit.reaction (place + before) = .granted)
      (refuses : visit.reaction (place + index) = .refused reason)
      (asks : Asks (requests.take (index + 1)) asked.journal) :
      Prepares visit goOn place requests
        (asked.andThen (visit.endRefused request reason asked.world))
  /-- A request gets no answer, and is the last one. -/
  | ignored (index : Nat) (asked : Run Unit) (inside : index < requests.length)
      (earlier : ∀ before < index, visit.reaction (place + before) = .granted)
      (ignores : visit.reaction (place + index) = .ignored)
      (asks : Asks (requests.take (index + 1)) asked.journal) :
      Prepares visit goOn place requests ⟨asked.journal, asked.world, none⟩

/-- What is granted from the next place on is granted from this one on, if this one is. -/
theorem granted_from {place length : Nat} (granted : visit.reaction place = .granted)
    (later : ∀ index < length, visit.reaction (place + 1 + index) = .granted) :
    ∀ index < length + 1, visit.reaction (place + index) = .granted := by
  intro index inside
  cases index with
  | zero => exact granted
  | succ index =>
    have := later index (Nat.lt_of_succ_lt_succ inside)
    rwa [Nat.add_assoc, Nat.add_comm 1 index] at this

/-- A request that is granted goes before the others. -/
theorem Prepares.cons {place : Nat} {request : Request} {rest : List Request} (asked : Run Unit)
    (asks : Asks [request] asked.journal) (granted : visit.reaction place = .granted)
    {later : Run (Option (Except WorkerError Unit))}
    (prepares : Prepares visit goOn (place + 1) rest later) :
    Prepares visit goOn place (request :: rest) (asked.andThen later) := by
  cases prepares with
  | granted askedLater all asksLater =>
    rw [← Run.andThen_assoc]
    exact .granted (asked.andThen askedLater) (granted_from granted all) (asks.append asksLater)
  | refused index askedLater is earlier refuses asksLater =>
    rw [Nat.add_assoc, Nat.add_comm 1 index] at refuses
    rw [← Run.andThen_assoc]
    exact .refused (index + 1) (asked.andThen askedLater) is (granted_from granted earlier) refuses
      (asks.append asksLater)
  | ignored index askedLater inside earlier ignores asksLater =>
    rw [Nat.add_assoc, Nat.add_comm 1 index] at ignores
    exact .ignored (index + 1) (asked.andThen askedLater) (Nat.succ_lt_succ inside)
      (granted_from granted earlier) ignores (asks.append asksLater)

/-- Every preparation goes so. -/
theorem prepares_setUp (visit : Visit) (goOn : Sim (Option (Except WorkerError Unit)))
    (place : Nat) (requests : List Request) (world : World) :
    Prepares visit goOn place requests (visit.setUp goOn place requests world) := by
  induction requests generalizing place world with
  | nil =>
    exact .granted ⟨[], world, ()⟩ (fun _ within => absurd within (Nat.not_lt_zero _)) ⟨rfl, rfl⟩
  | cons request rest ih =>
    rw [setUp, Sim.bind_eq_andThen]
    have sent := asks_requested request world
    generalize Sim.happen (.requested request) world = asked at sent ⊢
    unfold answered
    cases comes : (visit.answer place).delay with
    | none =>
      have ignored : visit.reaction place = .ignored := by simp [reaction, comes]
      simp only [Run.andThen, Sim.pure_apply, List.append_nil]
      exact .ignored 0 asked (Nat.zero_lt_succ _)
        (fun _ before => absurd before (Nat.not_lt_zero _))
        ignored sent
    | some delay =>
      simp only [Sim.bind_eq_andThen]
      have waited := sent.append (asks_wait delay asked.world)
      rw [← Run.andThen_assoc]
      cases refusal : (visit.answer place).refusal with
      | some reason =>
        have refused : visit.reaction place = .refused reason := by
          simp [reaction, comes, refusal]
        exact .refused 0 (asked.andThen (Sim.wait delay asked.world)) rfl
          (fun _ before => absurd before (Nat.not_lt_zero _)) refused waited
      | none =>
        have granted : visit.reaction place = .granted := by simp [reaction, comes, refusal]
        simp only [Sim.bind_eq_andThen]
        rw [← Run.andThen_assoc]
        have told := waited.append (asks_reportGranted request (Sim.wait delay asked.world).world)
        exact .cons ((asked.andThen _).andThen _) told granted (ih (place + 1) _)

end Visit

end Broker

/-! ## Numbers of deliveries -/

namespace Consumer

/-- The number of the message at a place of a queue, if there is one. -/
def Feed.tag? (feed : Feed) (kind : EventKind) (place : Nat) : Option Nat :=
  (feed.offer kind place).bind fun offer =>
    (offer.item.handling? kind).map fun handling => handling.delivery.tag

/-- The numbers of traffic are those of its messages. -/
theorem Traffic.tag?_feed (traffic : Traffic) (timetable : Timetable) (kind : EventKind)
    (place : Nat) : (traffic.feed timetable).tag? kind place =
      (traffic.messages kind)[place]?.map Message.tag := by
  simp only [Feed.tag?, Traffic.feed]
  cases (traffic.messages kind)[place]? <;> rfl

/-- No two messages have the same number. -/
def Feed.TellsApart (feed : Feed) : Prop :=
  ∀ kind place other later tag, feed.tag? kind place = some tag → feed.tag? other later = some tag →
    kind = other ∧ place = later

/-- The numbers of the messages among some items. -/
def tags (servings : List Serving) : List Nat :=
  (servings.filterMap Serving.handling?).map fun handling => handling.delivery.tag

/-- Every number is that of a message that has not been taken before. -/
theorem Feed.HandsOut.tag?_eq {feed : Feed} {taken : List EventKind} {servings : List Serving}
    (handed : feed.HandsOut taken servings) {tag : Nat} (among : tag ∈ tags servings) :
    ∃ kind place, taken.count kind ≤ place ∧
      place < taken.count kind + (servings.map Serving.kind).count kind ∧
      feed.tag? kind place = some tag := by
  induction handed with
  | nil => cases among
  | @cons taken kind offer rest offered later ih =>
    have first : tag ∈ tags [⟨kind, offer.item⟩] ∨ tag ∈ tags rest := by
      rw [← List.mem_append, tags, tags, ← List.map_append, ← List.filterMap_append]
      exact among
    obtain own | others := first
    · refine ⟨kind, taken.count kind, Nat.le_refl _, by simp, ?_⟩
      obtain ⟨handling, listed, rfl⟩ := List.mem_map.mp own
      obtain ⟨_, here, message⟩ := List.mem_filterMap.mp listed
      cases List.mem_singleton.mp here
      have is : offer.item.handling? kind = some handling := message
      simp [Feed.tag?, offered, is]
    · obtain ⟨other, place, after, before, is⟩ := ih others
      refine ⟨other, place, ?_, ?_, is⟩
      · rw [List.count_append] at after
        omega
      · rw [List.count_append] at before
        simp only [List.map_cons, List.count_cons] at before ⊢
        simp only [List.count_nil] at before
        omega

/-- The messages that are handed out have different numbers. -/
theorem Feed.HandsOut.nodup_tags {feed : Feed} (apart : feed.TellsApart) {taken : List EventKind}
    {servings : List Serving} (handed : feed.HandsOut taken servings) : (tags servings).Nodup := by
  induction handed with
  | nil => exact List.nodup_nil
  | @cons taken kind offer rest offered later ih =>
    unfold tags
    rw [List.filterMap_cons]
    cases message : (⟨kind, offer.item⟩ : Serving).handling? with
    | none => exact ih
    | some handling =>
      refine List.nodup_cons.mpr ⟨fun again => ?_, ih⟩
      obtain ⟨other, place, after, _, is⟩ := later.tag?_eq again
      have first : feed.tag? kind (taken.count kind) = some handling.delivery.tag := by
        have item : offer.item.handling? kind = some handling := message
        simp [Feed.tag?, offered, item]
      obtain ⟨rfl, same⟩ := apart _ _ _ _ _ first is
      simp only [List.count_append, List.count_singleton_self] at after
      omega

/-- The items of a run are received and settled in the same order. -/
theorem receipts_servings (consumer : Consumer) (servings : List Serving) :
    (servings.flatMap (Serving.deeds consumer)).filterMap receipt? =
      ((servings.flatMap (Serving.deeds consumer)).filterMap Journal.settlement?).map
        Prod.fst := by
  induction servings with
  | nil => rfl
  | cons serving rest ih =>
    simp only [List.flatMap_cons, List.filterMap_append, List.map_append, ih]
    congr 1
    unfold Serving.deeds
    cases serving.handling? with
    | none => rfl
    | some handling => simpa using Handling.receipts_blocks consumer [handling]

/-- At every moment of what is done with some items, one delivery at most is not settled. -/
theorem settlesInTurn_of_prefix_servings {consumer : Consumer} {servings : List Serving}
    {earlier : List Occurrence}
    (before : earlier <+: servings.flatMap (Serving.deeds consumer)) : SettlesInTurn earlier := by
  rw [← List.append_nil (servings.flatMap _)] at before
  obtain ⟨whole, part, _, rfl, last⟩ :=
    prefix_flatMap_append (Serving.deeds consumer) [] servings before
  refine .after (receipts_servings consumer whole) ?_
  obtain ⟨_, ended⟩ | ⟨serving, _, begun⟩ := last
  · exact settlesInTurn_of_prefix_final (.inl rfl) ended
  · unfold Serving.deeds at begun
    cases message : serving.handling? with
    | none =>
      rw [message] at begun
      exact settlesInTurn_of_prefix_final (.inr ⟨serving.kind, rfl⟩) begun
    | some handling =>
      rw [message] at begun
      exact Handling.settlesInTurn_of_prefix_block begun

end Consumer

/-! ## Visits -/

open Broker (Visit Verdict agreedRequests)

/-- How a visit talks with its broker, in which some items are taken. -/
structure Converses (consumer : Consumer) (prefetch : UInt16) (visit : Visit) (world : World)
    (servings : List Serving) (run : Run (Option (Except WorkerError Unit))) : Prop where
  /-- Nothing else is asked for but what has been agreed on, in its order. -/
  requests : run.journal.requests <+: agreedRequests consumer prefetch
  /-- The first request that is refused is the last one: the visit takes nothing, and ends with the
  reason, after it has left if there was a channel. -/
  refused : ∀ place < 7, ∀ reason, (∀ earlier < place, visit.reaction earlier = .granted) →
    visit.reaction place = .refused reason →
      run.journal.requests = (agreedRequests consumer prefetch).take (place + 1) ∧ servings = [] ∧
      run.value = if place < 2 then some (.error (.broker reason))
        else visit.leaving.map fun _ => .error (.broker reason)
  /-- A request that gets no answer is the last one: the visit takes nothing, and does not end. -/
  ignored : ∀ place < 7, (∀ earlier < place, visit.reaction earlier = .granted) →
    visit.reaction place = .ignored →
      run.journal.requests = (agreedRequests consumer prefetch).take (place + 1) ∧ servings = [] ∧
        run.value = none
  /-- When something is taken, all requests have been sent and granted. -/
  confirmed : ∀ (before : Journal) entry after, run.journal = before ++ entry :: after →
    isTaking entry.what = true →
      before.requests = agreedRequests consumer prefetch ∧
        ∀ place < 7, visit.reaction place = .granted
  /-- The items are those that the queues hand out, and no others are taken. -/
  handed : visit.feed.HandsOut [] servings ∧ run.journal.takings = servings.map Serving.kind
  /-- The verdict on each message has its number and says what is decided about it. -/
  verdicts : run.journal.verdicts = (servings.filterMap Serving.handling?).map fun handling =>
    .of handling.delivery.tag (handling.outcome consumer).decision
  /-- No verdict stands for several deliveries. -/
  single : ∀ verdict ∈ run.journal.verdicts, verdict.multiple = false
  /-- At every moment, the deliveries that have been received have been settled, in the same order,
  but for the last one at most. -/
  inTurn : ∀ earlier : Journal, earlier <+: run.journal → SettlesInTurn earlier.deeds
  /-- No number is settled twice. -/
  once : (run.journal.verdicts.map Verdict.tag).Nodup
  /-- A message that is not taken is not settled. -/
  untaken : ∀ kind place tag, (servings.map Serving.kind).count kind ≤ place →
    visit.feed.tag? kind place = some tag → tag ∉ run.journal.verdicts.map Verdict.tag
  /-- If the visit takes no time but that of its loop, it is a session, as far as it is watched. -/
  session : ∀ refusedAt, visit.IsSession 0 refusedAt → world.IsIdle → ∃ wakes,
    Broker.Visit.Watches run (Broker.Session.run consumer prefetch { refusedAt, wakes } world)

/-- What is done with the items of a run shows which they are. -/
theorem takings_of_deeds {consumer : Consumer} {journal : Journal} {servings : List Serving}
    (deeds : journal.deeds = servings.flatMap (Serving.deeds consumer)) :
    journal.takings = servings.map Serving.kind := by
  have blind : ∀ what : Occurrence, what.isDeed = false → Journal.taking? what = none := by
    intro what other
    cases what <;> first | rfl | cases other
  have viewed : journal.takings = journal.deeds.filterMap Journal.taking? :=
    Journal.filterMap_only blind journal
  rw [viewed, deeds, List.filterMap_flatMap, List.map_eq_flatMap]
  refine List.flatMap_congr fun serving _ => ?_
  unfold Serving.deeds
  cases message : serving.handling? with
  | none => rfl
  | some handling =>
    simp only [Handling.block, Handling.deeds, Handling.storeCall,
      Serving.kind_of_handling? message]
    split <;> rfl

/-- Without deeds, nothing is taken. -/
theorem servings_eq_nil {consumer : Consumer} {servings : List Serving}
    (idle : servings.flatMap (Serving.deeds consumer) = []) : servings = [] := by
  cases servings with
  | nil => rfl
  | cons serving rest =>
    have none : serving.deeds consumer = [] := (List.append_eq_nil_iff.mp idle).1
    have taken := serving.takings_deeds consumer
    rw [none] at taken
    cases taken

namespace Broker.Visit.Prepares

variable {visit : Visit} {goOn : Sim (Option (Except WorkerError Unit))}
  {requests : List Broker.Request} {run : Run (Option (Except WorkerError Unit))}

/-- What is asked for is a beginning of what shall be asked for. -/
theorem requests_isPrefix (content : goOn.Lacks isRequest) {place : Nat}
    (prepares : visit.Prepares goOn place requests run) : run.journal.requests <+: requests := by
  cases prepares with
  | granted asked all asks =>
    refine ⟨[], ?_⟩
    rw [Run.andThen, Journal.requests_append, asks.requests, Journal.requests_eq_nil (content _),
      List.append_nil, List.append_nil]
  | refused index asked is earlier refuses asks =>
    rw [Run.andThen, Journal.requests_append, asks.requests,
      (visit.asks_endRefused _ _ _).requests, List.append_nil]
    exact List.take_prefix _ _
  | ignored index asked inside earlier ignores asks =>
    rw [asks.requests]
    exact List.take_prefix _ _

/-- There is one first request that is not granted. -/
theorem place_unique {one other : Nat}
    (before : ∀ earlier < one, visit.reaction earlier = .granted)
    (here : visit.reaction one ≠ .granted)
    (beforeOther : ∀ earlier < other, visit.reaction earlier = .granted)
    (hereOther : visit.reaction other ≠ .granted) : one = other := by
  obtain less | same | more := Nat.lt_trichotomy one other
  · exact absurd (beforeOther one less) here
  · exact same
  · exact absurd (before other more) hereOther

/-- A visit sends the first request that is refused, and ends. -/
theorem at_refused (prepares : visit.Prepares goOn 0 requests run) {place : Nat} {reason : String}
    (inside : place < requests.length)
    (before : ∀ earlier < place, visit.reaction earlier = .granted)
    (refused : visit.reaction place = .refused reason) :
    ∃ (request : Broker.Request) (asked : Run Unit), requests[place]? = some request ∧
      Asks (requests.take (place + 1)) asked.journal ∧
      run = asked.andThen (visit.endRefused request reason asked.world) := by
  have here : visit.reaction place ≠ .granted := by simp [refused]
  cases prepares with
  | granted asked all asks =>
    have granted := all place inside
    rw [Nat.zero_add] at granted
    exact absurd granted here
  | @refused index asked request other is earlier refuses asks =>
    simp only [Nat.zero_add] at earlier refuses
    obtain rfl := place_unique before here earlier (by simp [refuses])
    obtain rfl : reason = other := by simpa [refused] using refuses
    exact ⟨request, asked, is, asks, rfl⟩
  | ignored index asked _ earlier ignores asks =>
    simp only [Nat.zero_add] at earlier ignores
    obtain rfl := place_unique before here earlier (by simp [ignores])
    simp [refused] at ignores

/-- A visit sends the first request that gets no answer, and waits for ever. -/
theorem at_ignored (prepares : visit.Prepares goOn 0 requests run) {place : Nat}
    (inside : place < requests.length)
    (before : ∀ earlier < place, visit.reaction earlier = .granted)
    (ignored : visit.reaction place = .ignored) : ∃ asked : Run Unit,
      Asks (requests.take (place + 1)) asked.journal ∧
        run = ⟨asked.journal, asked.world, none⟩ := by
  have here : visit.reaction place ≠ .granted := by simp [ignored]
  cases prepares with
  | granted asked all asks =>
    have granted := all place inside
    rw [Nat.zero_add] at granted
    exact absurd granted here
  | refused index asked is earlier refuses asks =>
    simp only [Nat.zero_add] at earlier refuses
    obtain rfl := place_unique before here earlier (by simp [refuses])
    simp [ignored] at refuses
  | ignored index asked _ earlier ignores asks =>
    simp only [Nat.zero_add] at earlier ignores
    obtain rfl := place_unique before here earlier (by simp [ignores])
    exact ⟨asked, asks, rfl⟩

/-- When something is taken, all has been asked for and granted. -/
theorem confirmed (content : goOn.Lacks isRequest) (prepares : visit.Prepares goOn 0 requests run)
    {before : Journal} {entry : Entry} {after : Journal}
    (split : run.journal = before ++ entry :: after) (taking : isTaking entry.what = true) :
    before.requests = requests ∧
      ∀ place < requests.length, visit.reaction place = .granted := by
  have untaken {journal : Journal} (idle : journal.deeds = []) : journal.only isTaking = [] := by
    rw [only_isTaking, idle]
    rfl
  have taken : run.journal.only isTaking ≠ [] :=
    List.ne_nil_of_mem (List.mem_filter.mpr ⟨List.mem_map_of_mem (by simp [split]), taking⟩)
  cases prepares with
  | granted asked all asks =>
    refine ⟨?_, by simpa using all⟩
    obtain ⟨middle, rfl, rest⟩ := Journal.split_of_lacks (untaken asks.deeds) split taking
    have nothing := Journal.requests_eq_nil (content asked.world)
    rw [rest, Journal.requests_append, List.append_eq_nil_iff] at nothing
    rw [Journal.requests_append, asks.requests, nothing.1, List.append_nil]
  | refused index asked is earlier refuses asks =>
    exact absurd (untaken (asks.append (visit.asks_endRefused _ _ asked.world)).deeds) taken
  | ignored index asked _ earlier ignores asks => exact absurd (untaken asks.deeds) taken

end Broker.Visit.Prepares

/-- Every visit talks so with its broker. -/
theorem visit_converses {visit : Visit} (apart : visit.feed.TellsApart) (consumer : Consumer)
    (prefetch : UInt16) (turns : Nat) (world : World) : ∃ servings,
    Converses consumer prefetch visit world servings
      (visit.run consumer prefetch turns world) := by
  obtain ⟨servings, visited⟩ := Visit.visited_run consumer prefetch turns visit world
  have prepares := Visit.prepares_setUp visit (visit.consume consumer prefetch turns) 0
    (agreedRequests consumer prefetch) world
  have content := visit.lacks_consume isSilent_isRequest rfl isOfLoop_of_isRequest consumer prefetch
    turns
  have session (refusedAt : Option Nat) (is : visit.IsSession 0 refusedAt) (idle : world.IsIdle) :=
    is.watches_run idle consumer prefetch turns
  have settled := Supervision.settlements_of_deeds visited.deeds
  have numbers : (visit.run consumer prefetch turns world).journal.verdicts.map Verdict.tag =
      Consumer.tags servings := by
    simp [Journal.verdicts, settled, Consumer.tags]
  change visit.Prepares _ 0 _ (visit.run consumer prefetch turns world) at prepares
  generalize visit.run consumer prefetch turns world = run at *
  refine ⟨servings, prepares.requests_isPrefix content, ?_, ?_,
    fun before entry after => prepares.confirmed content,
    ⟨visited.handed, takings_of_deeds visited.deeds⟩, ?_, ?_, ?_, ?_, ?_, session⟩
  · intro place inside reason before refused
    obtain ⟨request, asked, is, asks, rfl⟩ := prepares.at_refused inside before refused
    have whole := asks.append (visit.asks_endRefused request reason asked.world)
    rw [List.append_nil] at whole
    refine ⟨whole.requests, servings_eq_nil (visited.deeds.symm.trans whole.deeds), ?_⟩
    rw [Run.andThen, visit.endRefused_value_eq, Broker.precedesChannel_agreedRequests is]
    simp
  · intro place inside before ignored
    obtain ⟨asked, asks, rfl⟩ := prepares.at_ignored inside before ignored
    exact ⟨asks.requests, servings_eq_nil (visited.deeds.symm.trans asks.deeds), rfl⟩
  · rw [Journal.verdicts, settled, List.map_map]
    rfl
  · intro verdict among
    obtain ⟨settlement, _, rfl⟩ := List.mem_map.mp among
    exact Verdict.multiple_of _ _
  · intro earlier before
    have deeds : earlier.deeds <+: run.journal.deeds := (before.map _).filter _
    rw [visited.deeds] at deeds
    exact Consumer.settlesInTurn_of_prefix_servings deeds
  · rw [numbers]
    exact visited.handed.nodup_tags apart
  · intro kind place tag late is among
    rw [numbers] at among
    obtain ⟨other, earlier, _, early, also⟩ := visited.handed.tag?_eq among
    obtain ⟨rfl, rfl⟩ := apart _ _ _ _ _ is also
    simp only [List.count_nil] at early
    omega

/-- A broker that answers at once, and hands out a few messages. -/
def Broker.Visit.few : Visit where
  answer _ := { delay := some 0, refusal := none }
  feed := Traffic.few.feed .usageFirst
  leaving := some .atOnce

/-- Three messages with different numbers are dropped, each by a verdict of its own. -/
theorem few_converses :
    let consumer : Consumer := { usageQueue := "usage", auditQueue := "audit", timeLimit := 500 }
    let world : World := { World.start with planned := some (100, .stop) }
    let run := Visit.few.run consumer 20 9 world
    run.journal.verdicts = [.nack 1 false false, .nack 3 false false, .ack 2 false] ∧
      ∃ servings, Converses consumer 20 .few world servings run := by
  have apart : Visit.few.feed.TellsApart := by
    rintro (_ | _) (_ | _ | _) (_ | _) (_ | _ | _) tag <;>
      simp only [Visit.few, Traffic.tag?_feed, Traffic.few, List.getElem?_cons_zero,
        List.getElem?_cons_succ, List.getElem?_nil, Option.map_some, Option.map_none] <;>
      simp <;> omega
  exact ⟨by decide +kernel, visit_converses apart _ _ _ _⟩

end EventLedger

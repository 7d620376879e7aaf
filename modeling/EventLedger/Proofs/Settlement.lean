import EventLedger.Consumer.Feed
import EventLedger.Lifecycle
import EventLedger.Proofs.Simulation

/-!
# What decides about a delivery

What becomes of a delivery is a function of its body, the time limit and the answer of its store:
no clock, no signal and no settlement has a part in it. The deeds of a delivery are therefore a
function of the same things, `Handling.deeds`, and so are its decision and its counted duration.
-/
namespace EventLedger

/-- The decoder of a kind accepts a body as an event, which is of that kind. -/
def Decodes : EventKind → Json.Bytes → Event → Prop
  | .usage, body, .usage event => UsageEvent.ofBody body = .ok event
  | .audit, body, .audit event => AuditEvent.ofBody body = .ok event
  | _, _, _ => False

/-- The decoder of a kind rejects a body. -/
def Rejects : EventKind → Json.Bytes → ValidationError → Prop
  | .usage, body, error => UsageEvent.ofBody body = .error error
  | .audit, body, error => AuditEvent.ofBody body = .error error

/-- Reading a body is done by the decoder of its queue's kind. -/
theorem Event.ofBody_eq_ok {kind : EventKind} {body : Json.Bytes} {event : Event} :
    Event.ofBody kind body = .ok event ↔ Decodes kind body event := by
  cases kind with
  | usage =>
    simp only [Event.ofBody]
    cases read : UsageEvent.ofBody body <;> cases event <;> simp [Decodes, Except.map, read]
  | audit =>
    simp only [Event.ofBody]
    cases read : AuditEvent.ofBody body <;> cases event <;> simp [Decodes, Except.map, read]

/-- A body is refused by the decoder of its queue's kind. -/
theorem Event.ofBody_eq_error {kind : EventKind} {body : Json.Bytes} {error : ValidationError} :
    Event.ofBody kind body = .error error ↔ Rejects kind body error := by
  cases kind with
  | usage =>
    simp only [Event.ofBody, Rejects]
    cases UsageEvent.ofBody body <;> simp [Except.map]
  | audit =>
    simp only [Event.ofBody, Rejects]
    cases AuditEvent.ofBody body <;> simp [Except.map]

/-- The event of a body is of the kind of its queue. -/
theorem Event.kind_of_ofBody {kind : EventKind} {body : Json.Bytes} {event : Event}
    (decoded : Event.ofBody kind body = .ok event) : event.kind = kind := by
  have accepted := Event.ofBody_eq_ok.mp decoded
  cases kind with
  | usage =>
    cases event with
    | usage event => rfl
    | audit event => cases accepted
  | audit =>
    cases event with
    | usage event => cases accepted
    | audit event => rfl

namespace Consumer

namespace StoreResponse

/-- What becomes of an event whose store responds so, within a limit of time. -/
def outcomeWithin (response : StoreResponse) (timeLimit : Nat) : Outcome :=
  match response.delay with
  | none => .failed (.timeout (.ofMillis timeLimit))
  | some delay =>
    if delay ≤ timeLimit then outcomeOf response.answer
    else .failed (.timeout (.ofMillis timeLimit))

/-- How long a call takes whose store responds so, within a limit of time. -/
def millisWithin (response : StoreResponse) (timeLimit : Nat) : Nat :=
  match response.delay with
  | none => timeLimit
  | some delay => min delay timeLimit

/-- The store gives an answer before the time is over, or just then. -/
def AnswersWithin (response : StoreResponse) (timeLimit : Nat) (answer : Except StoreError Unit) :
    Prop :=
  ∃ delay, response.delay = some delay ∧ delay ≤ timeLimit ∧ response.answer = answer

/-- The store gives no answer before the time is over. -/
def IsLate (response : StoreResponse) (timeLimit : Nat) : Prop :=
  ∀ delay, response.delay = some delay → timeLimit < delay

/-- A late answer is not heard: what counts is that the time ran out. -/
theorem outcomeWithin_of_isLate {response : StoreResponse} {timeLimit : Nat}
    (late : response.IsLate timeLimit) :
    response.outcomeWithin timeLimit = .failed (.timeout (.ofMillis timeLimit)) := by
  unfold outcomeWithin
  cases due : response.delay with
  | none => rfl
  | some delay => exact if_neg (Nat.not_le.mpr (late delay due))

/-- A late answer takes all the time there is. -/
theorem millisWithin_of_isLate {response : StoreResponse} {timeLimit : Nat}
    (late : response.IsLate timeLimit) : response.millisWithin timeLimit = timeLimit := by
  unfold millisWithin
  cases due : response.delay with
  | none => rfl
  | some delay => exact Nat.min_eq_right (Nat.le_of_lt (late delay due))

/-- A store answers within the limit, or it is late. -/
theorem answersWithin_or_isLate (response : StoreResponse) (timeLimit : Nat) :
    response.AnswersWithin timeLimit response.answer ∨ response.IsLate timeLimit := by
  cases due : response.delay with
  | none => exact .inr (by simp [IsLate, due])
  | some delay =>
    by_cases inTime : delay ≤ timeLimit
    · exact .inl ⟨delay, due, inTime, rfl⟩
    · refine .inr fun other same => ?_
      rw [due, Option.some.injEq] at same
      omega

/-- An answer in time decides the outcome. -/
theorem outcomeWithin_of_answersWithin {response : StoreResponse} {timeLimit : Nat}
    {answer : Except StoreError Unit} (answers : response.AnswersWithin timeLimit answer) :
    response.outcomeWithin timeLimit = outcomeOf answer := by
  obtain ⟨delay, due, inTime, rfl⟩ := answers
  simp only [outcomeWithin, due, inTime, ↓reduceIte]

/-- No answer is both in time and late. -/
theorem not_answersWithin_of_isLate {response : StoreResponse} {timeLimit : Nat}
    {answer : Except StoreError Unit} (late : response.IsLate timeLimit) :
    ¬response.AnswersWithin timeLimit answer := by
  rintro ⟨delay, due, inTime, _⟩
  have := late delay due
  omega

/-- A store gives one answer at most. -/
theorem answersWithin_unique {response : StoreResponse} {timeLimit : Nat}
    {first second : Except StoreError Unit} (one : response.AnswersWithin timeLimit first)
    (two : response.AnswersWithin timeLimit second) : first = second := by
  obtain ⟨_, _, _, rfl⟩ := one
  obtain ⟨_, _, _, rfl⟩ := two
  rfl

/-- A delivery is acknowledged exactly if its store says in time that the event is stored. -/
theorem decision_eq_acknowledge {response : StoreResponse} {timeLimit : Nat} :
    (response.outcomeWithin timeLimit).decision = .acknowledge ↔
      response.AnswersWithin timeLimit (.ok ()) := by
  obtain answers | late := response.answersWithin_or_isLate timeLimit
  · rw [outcomeWithin_of_answersWithin answers]
    cases given : response.answer with
    | ok value => simpa [outcomeOf, Outcome.decision, given] using answers
    | error error =>
      rw [given] at answers
      constructor
      · intro decided
        cases error <;> simp [outcomeOf, Outcome.decision, StoreError.isTerminal] at decided
      · intro stored
        cases answersWithin_unique answers stored
  · rw [outcomeWithin_of_isLate late]
    simp [Outcome.decision, StoreError.isTerminal, not_answersWithin_of_isLate late]

/-- A delivery whose store is asked is dropped exactly if the store says in time that the event can
never be stored. -/
theorem decision_eq_drop {response : StoreResponse} {timeLimit : Nat} :
    (response.outcomeWithin timeLimit).decision = .drop ↔
      ∃ cause, response.AnswersWithin timeLimit (.error (.rejected cause)) := by
  obtain answers | late := response.answersWithin_or_isLate timeLimit
  · rw [outcomeWithin_of_answersWithin answers]
    constructor
    · intro decided
      cases given : response.answer with
      | ok value => simp [outcomeOf, Outcome.decision, given] at decided
      | error error =>
        rw [given] at answers decided
        cases error with
        | rejected cause => exact ⟨cause, answers⟩
        | retriable cause => simp [outcomeOf, Outcome.decision, StoreError.isTerminal] at decided
        | fatal cause => simp [outcomeOf, Outcome.decision, StoreError.isTerminal] at decided
        | timeout limit => simp [outcomeOf, Outcome.decision, StoreError.isTerminal] at decided
    · rintro ⟨cause, rejected⟩
      rw [answersWithin_unique answers rejected]
      rfl
  · rw [outcomeWithin_of_isLate late]
    simp [Outcome.decision, StoreError.isTerminal, not_answersWithin_of_isLate late]

/-- What is noticed of an answer, within a limit of time. -/
def answerNoticed (response : StoreResponse) (timeLimit : Nat) : List Occurrence :=
  match response.delay with
  | none => []
  | some delay => if delay ≤ timeLimit then [.storeAnswered] else []

/-- What happens in a call of the store, leaving out what is said about the signal. -/
def occurrences (response : StoreResponse) (timeLimit : Nat) (event : Event) : List Occurrence :=
  [.storeCalled event] ++ response.opening.map StoreDeed.occurrence ++
    response.answerNoticed timeLimit ++ response.closing.map StoreDeed.occurrence

end StoreResponse

/-! ## Calls of the store -/

variable {keep : Occurrence → Bool}

/-- A store's deeds happen in their order. -/
theorem only_perform (ignores : Sim.IgnoresSignals keep) (deeds : List StoreDeed) (world : World) :
    (perform deeds world).journal.only keep = (deeds.map StoreDeed.occurrence).filter keep :=
  Sim.only_happenAll ignores _ _

/-- The outcome of a call is that of the response. -/
theorem callStore_value (timeLimit : Nat) (event : Event) (response : StoreResponse)
    (world : World) :
    (callStore timeLimit event response world).value = response.outcomeWithin timeLimit := by
  unfold callStore StoreResponse.outcomeWithin
  cases response.delay with
  | none => rfl
  | some delay =>
    by_cases inTime : delay ≤ timeLimit <;> simp [inTime]

/-- A call takes the time of its response. -/
theorem callStore_now (timeLimit : Nat) (event : Event) (response : StoreResponse)
    (world : World) :
    (callStore timeLimit event response world).world.now =
      world.now + response.millisWithin timeLimit := by
  unfold callStore StoreResponse.millisWithin
  cases response.delay with
  | none => simp
  | some delay =>
    by_cases inTime : delay ≤ timeLimit
    · simp [inTime]
    · have late : min delay timeLimit = timeLimit := by omega
      simp [inTime, late]

/-- What happens in a call is what its response says. -/
theorem only_callStore (ignores : Sim.IgnoresSignals keep) (timeLimit : Nat) (event : Event)
    (response : StoreResponse) (world : World) :
    (callStore timeLimit event response world).journal.only keep =
      (response.occurrences timeLimit event).filter keep := by
  unfold callStore StoreResponse.occurrences StoreResponse.answerNoticed
  simp only [List.filter_append, List.append_assoc]
  cases response.delay with
  | none =>
    simp [only_perform ignores, Sim.only_happen ignores, Sim.only_wait ignores,
      Sim.only_stopIf ignores]
  | some delay =>
    by_cases inTime : delay ≤ timeLimit <;>
      simp [inTime, only_perform ignores, Sim.only_happen ignores, Sim.only_wait ignores,
        Sim.only_stopIf ignores]

/-! ## Deliveries -/

namespace Handling

/-- What becomes of a delivery. -/
def outcome (consumer : Consumer) (handling : Handling) : Outcome :=
  match Event.ofBody handling.delivery.kind handling.delivery.body with
  | .error error => .invalid error
  | .ok event => (handling.store event).outcomeWithin consumer.timeLimit

/-- How long a delivery takes without its settlement. -/
def millis (consumer : Consumer) (handling : Handling) : Nat :=
  match Event.ofBody handling.delivery.kind handling.delivery.body with
  | .error _ => 0
  | .ok event => (handling.store event).millisWithin consumer.timeLimit

/-- What happens between a store and a delivery. -/
def storing (consumer : Consumer) (handling : Handling) : List Occurrence :=
  match Event.ofBody handling.delivery.kind handling.delivery.body with
  | .error _ => []
  | .ok event => (handling.store event).occurrences consumer.timeLimit event

/-- What is logged when the settlement of a delivery fails. -/
def complaint (consumer : Consumer) (handling : Handling) : List Occurrence :=
  match handling.settlement.failure with
  | none => []
  | some reason =>
    [.logged (settlementRecord consumer handling.delivery.kind (handling.outcome consumer) reason)]

/-- What happens with a delivery, leaving out what is said about the signal. -/
def occurrences (consumer : Consumer) (handling : Handling) : List Occurrence :=
  let kind := handling.delivery.kind
  let outcome := handling.outcome consumer
  [.received kind handling.delivery.tag handling.delivery.body] ++ handling.storing consumer ++
    [.logged (outcomeRecord consumer kind outcome)] ++
    [.settled handling.delivery.tag outcome.decision] ++ handling.complaint consumer ++
    [.measured (consumer.queueName kind) outcome.decision (handling.millis consumer)]

end Handling

/-- The outcome of processing is that of the handling. -/
theorem process_value (consumer : Consumer) (handling : Handling) (world : World) :
    (process consumer handling.delivery.kind handling.delivery.body handling.store world).value =
      handling.outcome consumer := by
  unfold process Handling.outcome
  cases Event.ofBody handling.delivery.kind handling.delivery.body with
  | error error => rfl
  | ok event => exact callStore_value _ _ _ _

/-- Processing takes the time of the handling. -/
theorem process_now (consumer : Consumer) (handling : Handling) (world : World) :
    (process consumer handling.delivery.kind handling.delivery.body
      handling.store world).world.now = world.now + handling.millis consumer := by
  unfold process Handling.millis
  cases Event.ofBody handling.delivery.kind handling.delivery.body with
  | error error => rfl
  | ok event => exact callStore_now _ _ _ _

/-- What happens in processing is what the store does. -/
theorem only_process (ignores : Sim.IgnoresSignals keep) (consumer : Consumer)
    (handling : Handling) (world : World) :
    (process consumer handling.delivery.kind handling.delivery.body
      handling.store world).journal.only keep = (handling.storing consumer).filter keep := by
  unfold process Handling.storing
  cases Event.ofBody handling.delivery.kind handling.delivery.body with
  | error error => rfl
  | ok event => exact only_callStore ignores _ _ _ _

/-- What happens in a settlement; it fails without any effect but a record. -/
theorem only_settle (ignores : Sim.IgnoresSignals keep) (consumer : Consumer)
    (handling : Handling) (world : World) :
    (settle consumer handling.delivery (handling.outcome consumer)
      handling.settlement world).journal.only keep =
      [Occurrence.settled handling.delivery.tag (handling.outcome consumer).decision].filter keep ++
        (handling.complaint consumer).filter keep := by
  unfold settle Handling.complaint
  simp only [Sim.bind_journal, Journal.only_append, Sim.only_happen ignores,
    Sim.only_stopIf ignores, Sim.only_wait ignores, List.nil_append]
  cases handling.settlement.failure with
  | none => rfl
  | some reason => simp only [Sim.only_happen ignores]

/-- The result of a dispatch is the outcome's alone: no clock, signal or settlement has a part. -/
theorem dispatch_value (consumer : Consumer) (handling : Handling) (world : World) :
    (dispatch consumer handling.delivery handling.store handling.settlement world).value =
      (handling.outcome consumer).fatalError? := by
  simp only [dispatch, Sim.bind_value, Sim.pure_apply, Sim.world_bind, process_value]

/-- What happens in a dispatch is what the handling says. -/
theorem only_dispatch (ignores : Sim.IgnoresSignals keep) (consumer : Consumer)
    (handling : Handling) (world : World) :
    (dispatch consumer handling.delivery handling.store
      handling.settlement world).journal.only keep =
      (handling.occurrences consumer).filter keep := by
  simp only [dispatch, Sim.bind_journal, Sim.world_bind, Sim.pure_apply, Journal.only_append,
    process_value, process_now, Sim.happen_now, Sim.only_happen ignores, only_process ignores,
    only_settle ignores, Nat.add_sub_cancel_left, Handling.occurrences, List.filter_append,
    List.append_assoc, List.append_nil]

namespace Handling

/-- The call of the store for a delivery, if there is one. -/
def storeCall (handling : Handling) : List Occurrence :=
  match Event.ofBody handling.delivery.kind handling.delivery.body with
  | .error _ => []
  | .ok event => [.storeCalled event]

/-- What the loop does with a delivery: at most one call of the store, one settlement and one
measurement. -/
def deeds (consumer : Consumer) (handling : Handling) : List Occurrence :=
  [.received handling.delivery.kind handling.delivery.tag handling.delivery.body] ++
    handling.storeCall ++
    [.settled handling.delivery.tag (handling.outcome consumer).decision,
      .measured (consumer.queueName handling.delivery.kind) (handling.outcome consumer).decision
        (handling.millis consumer)]

/-- Nothing that a store does on its own is a deed of the loop. -/
theorem filter_isDeed_storeDeeds (deeds : List StoreDeed) :
    (deeds.map StoreDeed.occurrence).filter Occurrence.isDeed = [] := by
  rw [List.filter_eq_nil_iff]
  rintro _ listed
  obtain ⟨deed, _, rfl⟩ := List.mem_map.mp listed
  rcases deed with (_ | _) | _ | _ <;> simp [StoreDeed.occurrence, Occurrence.isDeed]

/-- Of what happens between a store and a delivery, the call is a deed. -/
theorem filter_isDeed_storing (consumer : Consumer) (handling : Handling) :
    (handling.storing consumer).filter Occurrence.isDeed = handling.storeCall := by
  unfold storing storeCall
  cases Event.ofBody handling.delivery.kind handling.delivery.body with
  | error error => rfl
  | ok event =>
    have unnoticed : ((handling.store event).answerNoticed consumer.timeLimit).filter
        Occurrence.isDeed = [] := by
      unfold StoreResponse.answerNoticed
      split
      · rfl
      · split <;> rfl
    simp [StoreResponse.occurrences, List.filter_cons, filter_isDeed_storeDeeds, unnoticed,
      Occurrence.isDeed]

/-- Of what happens with a delivery, these are the deeds. -/
theorem filter_isDeed_occurrences (consumer : Consumer) (handling : Handling) :
    (handling.occurrences consumer).filter Occurrence.isDeed = handling.deeds consumer := by
  have quiet : (handling.complaint consumer).filter Occurrence.isDeed = [] := by
    unfold complaint
    cases handling.settlement.failure <;> rfl
  simp [occurrences, deeds, List.filter_cons, filter_isDeed_storing, quiet, Occurrence.isDeed]

/-- The deeds of a delivery settle it once. -/
theorem settlements_deeds (consumer : Consumer) (handling : Handling) :
    (handling.deeds consumer).filterMap Journal.settlement? =
      [(handling.delivery.tag, (handling.outcome consumer).decision)] := by
  unfold deeds storeCall
  split <;> rfl

/-- The deeds of a delivery call its store as it is called. -/
theorem storeCalls_deeds (consumer : Consumer) (handling : Handling) :
    (handling.deeds consumer).filterMap Journal.storeCall? =
      handling.storeCall.filterMap Journal.storeCall? := by
  unfold deeds storeCall
  split <;> rfl

end Handling

/-- The deeds of a dispatch are those of the handling. -/
theorem deeds_dispatch (consumer : Consumer) (handling : Handling) (world : World) :
    (dispatch consumer handling.delivery handling.store handling.settlement world).journal.deeds =
      handling.deeds consumer := by
  rw [Journal.deeds, only_dispatch Sim.isDeed_ignoresSignals, Handling.filter_isDeed_occurrences]

/-! ## Late answers -/

namespace StoreResponse

/-- Two responses differ in nothing but answers that come after the limit, or never. -/
structure DifferLate (first second : StoreResponse) (timeLimit : Nat) : Prop where
  /-- They begin with the same deeds. -/
  opening : first.opening = second.opening
  /-- They agree on whether a stop is asked for. -/
  stops : first.stops = second.stops
  /-- They end with the same deeds. -/
  closing : first.closing = second.closing
  /-- The first answer comes too late. -/
  first_isLate : first.IsLate timeLimit
  /-- The second answer comes too late. -/
  second_isLate : second.IsLate timeLimit

/-- The call of a store that is late: its answer has no part in it. -/
theorem callStore_of_isLate {response : StoreResponse} {timeLimit : Nat}
    (late : response.IsLate timeLimit) (event : Event) :
    callStore timeLimit event response = (do
      Sim.happen (.storeCalled event)
      perform response.opening
      Sim.stopIf response.stops
      Sim.wait timeLimit
      perform response.closing
      return .failed (.timeout (.ofMillis timeLimit))) := by
  unfold callStore
  cases due : response.delay with
  | none => rfl
  | some delay =>
    have tooLate : ¬delay ≤ timeLimit := Nat.not_le.mpr (late delay due)
    simp only [if_neg tooLate]

/-- Late answers make no difference to a call. -/
theorem DifferLate.callStore_eq {first second : StoreResponse} {timeLimit : Nat}
    (alike : first.DifferLate second timeLimit) (event : Event) :
    callStore timeLimit event first = callStore timeLimit event second := by
  rw [callStore_of_isLate alike.first_isLate, callStore_of_isLate alike.second_isLate,
    alike.opening, alike.stops, alike.closing]

end StoreResponse

/-- Late answers make no difference to a dispatch. -/
theorem dispatch_of_differLate (consumer : Consumer) (delivery : Delivery)
    (settlement : Settlement) {first second : Event → StoreResponse} {event : Event}
    (decoded : Event.ofBody delivery.kind delivery.body = .ok event)
    (alike : (first event).DifferLate (second event) consumer.timeLimit) :
    dispatch consumer delivery first settlement = dispatch consumer delivery second settlement := by
  have processed : process consumer delivery.kind delivery.body first =
      process consumer delivery.kind delivery.body second := by
    simp only [process, decoded]
    exact alike.callStore_eq event
  simp only [dispatch, processed]

/-- A session that consumes takes one turn after another. -/
theorem runSession_consume_cons (consumer : Consumer) (wake : Wake) (rest : List Wake)
    (world : World) :
    Lifecycle.runSession consumer (.consume (wake :: rest)) world =
      let taken := turn consumer (some wake) world
      match taken.value with
      | .goesOn =>
        let later := Lifecycle.runSession consumer (.consume rest) taken.world
        ⟨taken.journal ++ later.journal, later.world, later.value⟩
      | .ended result => ⟨taken.journal, taken.world, result⟩
      | .declined | .stuck => ⟨taken.journal, taken.world, .ok ()⟩ := by
  cases taken : (turn consumer (some wake) world).value <;>
    simp [Lifecycle.runSession, loop, Sim.bind_apply, taken]

/-- Wakes for which the loop takes the same turn are the same for a whole session. -/
theorem runSession_consume_replace (consumer : Consumer) {first second : Wake}
    (same : turn consumer (some first) = turn consumer (some second)) (before after : List Wake) :
    Lifecycle.runSession consumer (.consume (before ++ first :: after)) =
      Lifecycle.runSession consumer (.consume (before ++ second :: after)) := by
  funext world
  induction before generalizing world with
  | nil => rw [List.nil_append, List.nil_append, runSession_consume_cons, runSession_consume_cons,
      same]
  | cons wake rest ih =>
    rw [List.cons_append, List.cons_append, runSession_consume_cons, runSession_consume_cons]
    simp only [ih]

/-- A delivery is settled by its body, the time limit and the answer of its store alone. -/
theorem dispatch_settles (consumer : Consumer) (delivery : Delivery)
    (store : Event → StoreResponse) (settlement : Settlement) (world : World) :
    let dispatched := dispatch consumer delivery store settlement world
    let processed := process consumer delivery.kind delivery.body store world
    let limit := consumer.timeLimit
    (∃ error, Rejects delivery.kind delivery.body error ∧
      dispatched.journal.storeCalls = [] ∧
      dispatched.journal.settlements = [(delivery.tag, .drop)]) ∨
    (∃ event decision, Decodes delivery.kind delivery.body event ∧ event.kind = delivery.kind ∧
      dispatched.journal.storeCalls = [event] ∧
      dispatched.journal.settlements = [(delivery.tag, decision)] ∧
      (decision = .acknowledge ↔ (store event).AnswersWithin limit (.ok ())) ∧
      (decision = .drop ↔ ∃ cause, (store event).AnswersWithin limit (.error (.rejected cause))) ∧
      (decision = .requeue ↔ ¬(store event).AnswersWithin limit (.ok ()) ∧
        ¬∃ cause, (store event).AnswersWithin limit (.error (.rejected cause))) ∧
      ((store event).IsLate limit →
        processed.value = .failed (.timeout (.ofMillis limit)) ∧
        processed.world.now = world.now + limit ∧
        ∀ other : Event → StoreResponse, (store event).DifferLate (other event) limit →
          dispatch consumer delivery store settlement =
            dispatch consumer delivery other settlement ∧
          ∀ (before after : List Wake) (millis : Nat) (tie : Sim.Tie),
            Lifecycle.runSession consumer
                (.consume (before ++ ⟨millis, tie, .delivery delivery store settlement⟩ :: after)) =
              Lifecycle.runSession consumer (.consume
                (before ++ ⟨millis, tie, .delivery delivery other settlement⟩ :: after)))) := by
  intro dispatched processed limit
  let handling : Handling := { delivery, store, settlement }
  have deeds : dispatched.journal.deeds = handling.deeds consumer :=
    deeds_dispatch consumer handling world
  have settled : dispatched.journal.settlements =
      [(delivery.tag, (handling.outcome consumer).decision)] := by
    rw [Journal.settlements_eq, deeds, Handling.settlements_deeds]
  have called : dispatched.journal.storeCalls =
      handling.storeCall.filterMap Journal.storeCall? := by
    rw [Journal.storeCalls_eq, deeds, Handling.storeCalls_deeds]
  cases decoded : Event.ofBody delivery.kind delivery.body with
  | error error =>
    left
    have rejected : handling.outcome consumer = .invalid error := by
      simp only [Handling.outcome, handling, decoded]
    refine ⟨error, Event.ofBody_eq_error.mp decoded, ?_, ?_⟩
    · rw [called]
      simp only [Handling.storeCall, handling, decoded, List.filterMap_nil]
    · rw [settled, rejected]
      rfl
  | ok event =>
    right
    have accepted : handling.outcome consumer = (store event).outcomeWithin limit := by
      simp only [Handling.outcome, handling, decoded, limit]
    refine ⟨event, ((store event).outcomeWithin limit).decision,
      Event.ofBody_eq_ok.mp decoded, Event.kind_of_ofBody decoded, ?_, ?_,
      StoreResponse.decision_eq_acknowledge, StoreResponse.decision_eq_drop, ?_, ?_⟩
    · rw [called]
      simp only [Handling.storeCall, handling, decoded]
      rfl
    · rw [settled, accepted]
    · rw [← StoreResponse.decision_eq_acknowledge, ← StoreResponse.decision_eq_drop]
      cases ((store event).outcomeWithin limit).decision <;> simp
    · intro late
      refine ⟨?_, ?_, ?_⟩
      · rw [← StoreResponse.outcomeWithin_of_isLate late, ← accepted]
        exact process_value consumer handling world
      · have lasts : handling.millis consumer = limit := by
          simp only [Handling.millis, handling, decoded]
          exact StoreResponse.millisWithin_of_isLate late
        rw [← lasts]
        exact process_now consumer handling world
      · intro other alike
        have same := dispatch_of_differLate consumer delivery settlement decoded alike
        refine ⟨same, fun before after millis tie => ?_⟩
        apply runSession_consume_replace
        simp only [turn, take, same]

end Consumer

end EventLedger

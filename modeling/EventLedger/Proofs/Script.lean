import EventLedger.Deployment
import EventLedger.Proofs.Turns

/-!
# What a worker does to its broker and its database

Of what a worker does, its broker and its database notice requests, the end of a session, what is
received, stored and said, and settlements. For a supervised worker these are a list of requests,
ends of sessions and whole deliveries, however many attempts are made and wherever they end.
-/
namespace EventLedger

open Consumer (Handling Settlement)
open Database (Access Utterance)

/-- Whether the broker or the database notices it. -/
def Occurrence.isNoticed : Occurrence → Bool
  | .requested _ | .sessionClosed | .received _ _ _ | .storeCalled _ | .executed _ | .replied _
  | .settled _ _ => true
  | _ => false

/-- What the broker and the database notice of a journal. -/
def Journal.noticed (journal : Journal) : List Occurrence := journal.only Occurrence.isNoticed

/-- Signals and records are not noticed. -/
theorem isSilent_isNoticed : Consumer.IsSilent Occurrence.isNoticed :=
  ⟨fun _ _ => rfl, fun _ => rfl⟩

/-- What is said, as it happens. -/
def spoken (utterance : Utterance) : Occurrence := (Consumer.StoreDeed.said utterance).occurrence

/-- A delivery to a worker whose store is the database. -/
structure Task where
  /-- The delivery. -/
  delivery : Consumer.Delivery
  /-- What its store meets. -/
  access : Access
  /-- How its settlement goes. -/
  settlement : Settlement

namespace Task

/-- The handling of the delivery. -/
def handling (task : Task) : Handling where
  delivery := task.delivery
  store := task.access.response
  settlement := task.settlement

/-- What the queue is told. -/
def decision (consumer : Consumer) (task : Task) : Decision :=
  (task.handling.outcome consumer).decision

/-- What is said to the database for an event. -/
def said (task : Task) (event : Event) : List Utterance :=
  match task.access.meeting with
  | .pool false replies => (Database.storeEvent Database.scripted replies event).said
  | _ => []

/-- What is noticed of storing the delivery. -/
def storing (task : Task) : List Occurrence :=
  match Event.ofBody task.delivery.kind task.delivery.body with
  | .error _ => []
  | .ok event => .storeCalled event :: (task.said event).map spoken

/-- What is noticed of the delivery after it has been received. -/
def remaining (consumer : Consumer) (task : Task) : List Occurrence :=
  task.storing ++ [.settled task.delivery.tag (task.decision consumer)]

/-- What is noticed of the delivery. -/
def noticed (consumer : Consumer) (task : Task) : List Occurrence :=
  .received task.delivery.kind task.delivery.tag task.delivery.body :: task.remaining consumer

/-- What the store of a task says as soon as it is asked. -/
theorem opening_response (task : Task) (event : Event) :
    (task.access.response event).opening = (task.said event).map .said := by
  unfold Access.response Database.Meeting.response said
  cases task.access.meeting with
  | pool isClosed replies =>
    cases isClosed with
    | true => rfl
    | false =>
      simp only [Database.Pool.store, Bool.false_eq_true, ↓reduceIte]
      cases (Database.storeEvent Database.scripted replies event).last <;> rfl
  | failed error early => rfl
  | waiting => rfl

/-- What the store of a task does when the call ends is not noticed. -/
theorem filter_isNoticed_closing (task : Task) (event : Event) :
    ((task.access.response event).closing.map Consumer.StoreDeed.occurrence).filter
      Occurrence.isNoticed = [] := by
  unfold Access.response Database.Meeting.response
  cases task.access.meeting with
  | pool isClosed replies =>
    cases isClosed with
    | true => rfl
    | false =>
      simp only [Database.Pool.store, Bool.false_eq_true, ↓reduceIte]
      cases (Database.storeEvent Database.scripted replies event).last <;> rfl
  | failed error early => rfl
  | waiting => rfl

/-- Everything that is said is noticed. -/
theorem filter_isNoticed_spoken (said : List Utterance) :
    (said.map spoken).filter Occurrence.isNoticed = said.map spoken := by
  rw [List.filter_eq_self]
  rintro _ listed
  obtain ⟨utterance, _, rfl⟩ := List.mem_map.mp listed
  cases utterance <;> rfl

/-- What is noticed of a delivery is what its handling says. -/
theorem filter_isNoticed_occurrences (consumer : Consumer) (task : Task) :
    (task.handling.occurrences consumer).filter Occurrence.isNoticed =
      task.noticed consumer := by
  have quiet : (task.handling.complaint consumer).filter Occurrence.isNoticed = [] := by
    unfold Handling.complaint
    cases task.handling.settlement.failure <;> rfl
  have stores : (task.handling.storing consumer).filter Occurrence.isNoticed = task.storing := by
    unfold Handling.storing storing
    simp only [handling]
    cases Event.ofBody task.delivery.kind task.delivery.body with
    | error error => rfl
    | ok event =>
      have unheard : ((task.access.response event).answerNoticed consumer.timeLimit).filter
          Occurrence.isNoticed = [] := by
        unfold Consumer.StoreResponse.answerNoticed
        split
        · rfl
        · split <;> rfl
      simp only [Consumer.StoreResponse.occurrences, List.filter_append, unheard,
        filter_isNoticed_closing, opening_response, List.map_map, List.append_nil]
      exact congrArg (.storeCalled event :: ·) (filter_isNoticed_spoken _)
  simp only [Handling.occurrences, List.filter_append, quiet, stores]
  simp [List.filter_cons, Occurrence.isNoticed, noticed, remaining, decision, handling]

end Task

/-- What is noticed of a worker: requests, ends of sessions and whole deliveries. -/
inductive Scripted (consumer : Consumer) : List Occurrence → Prop where
  /-- Nothing. -/
  | nil : Scripted consumer []
  /-- A request first. -/
  | requested (request : Broker.Request) {rest : List Occurrence}
      (later : Scripted consumer rest) : Scripted consumer (.requested request :: rest)
  /-- The end of a session first. -/
  | closed {rest : List Occurrence} (later : Scripted consumer rest) :
      Scripted consumer (.sessionClosed :: rest)
  /-- A delivery first. -/
  | task (task : Task) {rest : List Occurrence} (later : Scripted consumer rest) :
      Scripted consumer (task.noticed consumer ++ rest)

/-- One script after another is a script. -/
theorem Scripted.append {consumer : Consumer} {first second : List Occurrence}
    (before : Scripted consumer first) (after : Scripted consumer second) :
    Scripted consumer (first ++ second) := by
  induction before with
  | nil => exact after
  | requested request _ ih => exact .requested request ih
  | closed _ ih => exact .closed ih
  | task task _ ih =>
    rw [List.append_assoc]
    exact .task task ih

/-- Whatever the world, what is noticed of a run is a script. -/
def Scripts {α : Type} (consumer : Consumer) (run : Sim α) : Prop :=
  ∀ world, Scripted consumer (run world).journal.noticed

namespace Scripts

variable {α β : Type} {consumer : Consumer}

/-- A run of which nothing is noticed. -/
theorem of_unnoticed {run : Sim α} (unnoticed : ∀ world, (run world).journal.noticed = []) :
    Scripts consumer run := by
  intro world
  rw [unnoticed]
  exact .nil

/-- A value comes of nothing. -/
theorem pure (value : α) : Scripts consumer (Pure.pure value) := of_unnoticed fun _ => rfl

/-- A look at the world is not noticed. -/
theorem world : Scripts consumer Sim.world := of_unnoticed fun _ => rfl

/-- One run after another. -/
theorem bind {first : Sim α} {next : α → Sim β} (before : Scripts consumer first)
    (after : ∀ value, Scripts consumer (next value)) : Scripts consumer (first >>= next) := by
  intro world
  rw [Journal.noticed, Sim.bind_journal, Journal.only_append]
  exact (before world).append (after _ _)

/-- Something happens that is not noticed. -/
theorem happen {what : Occurrence} (unnoticed : what.isNoticed = false) :
    Scripts consumer (Sim.happen what) := by
  apply of_unnoticed
  intro world
  rw [Journal.noticed, Sim.only_happen isSilent_isNoticed.ignoresSignals, List.filter_cons,
    unnoticed]
  rfl

/-- Logging is not noticed. -/
theorem log (level : Log.Level) (target message : String) (fields : Log.Fields) :
    Scripts consumer (Sim.log level target message fields) := happen rfl

/-- Asking for a stop is not noticed. -/
theorem stopIf (wanted : Bool) : Scripts consumer (Sim.stopIf wanted) :=
  of_unnoticed (Sim.only_stopIf isSilent_isNoticed.ignoresSignals wanted)

/-- A wait that the signal may end is not noticed. -/
theorem waitUnlessSignalled (millis : Nat) (tie : Sim.Tie) :
    Scripts consumer (Sim.waitUnlessSignalled millis tie) :=
  of_unnoticed (Sim.only_waitUnlessSignalled isSilent_isNoticed.ignoresSignals millis tie)

/-- A request is sent. -/
theorem request (request : Broker.Request) :
    Scripts consumer (Sim.happen (.requested request)) := by
  intro world
  rw [Journal.noticed, Sim.only_happen isSilent_isNoticed.ignoresSignals]
  exact .requested request .nil

/-- A warning is not noticed. -/
theorem warn (message : String) (error? : Option String) :
    Scripts consumer (Broker.Session.warn message error?) := by
  cases error? with
  | none => exact pure ()
  | some error => exact log _ _ _ _

/-- A session is closed. -/
theorem close (unclosed : Broker.Session.Unclosed) :
    Scripts consumer (Broker.Session.close unclosed) := by
  refine bind (warn _ _) fun _ => bind (warn _ _) fun _ => bind ?_ fun _ => log _ _ _ _
  intro world
  rw [Journal.noticed, Sim.only_happen isSilent_isNoticed.ignoresSignals]
  exact .closed .nil

/-- Stopping is not noticed. -/
theorem decline : Scripts consumer Consumer.decline := bind (log _ _ _ _) fun _ => pure _

/-- An arrival is dealt with as a whole. -/
theorem take (arrival : WorkerArrival) :
    Scripts consumer (Consumer.take consumer arrival.arrival) := by
  cases arrival with
  | delivery delivered access settlement =>
    intro world
    let task : Task := { delivery := delivered, access, settlement }
    have noticed : (Consumer.take consumer task.handling.arrival world).journal.noticed =
        task.noticed consumer := by
      rw [Journal.noticed, Consumer.only_take_delivery isSilent_isNoticed.ignoresSignals,
        List.filter_cons, Task.filter_isNoticed_occurrences]
      rfl
    change Scripted consumer (Consumer.take consumer task.handling.arrival world).journal.noticed
    rw [noticed, ← List.append_nil (task.noticed consumer)]
    exact .task task .nil
  | failure kind reason => exact bind (happen rfl) fun _ => pure _
  | closed kind => exact bind (happen rfl) fun _ => pure _
  | signal change =>
    exact bind (of_unnoticed fun _ => rfl) fun _ => bind (log _ _ _ _) fun _ => pure _

/-- A turn of the loop. -/
theorem turn (wake : WorkerWake) :
    Scripts consumer
      (Consumer.turn consumer (some ⟨wake.delay, wake.tie, wake.arrival.arrival⟩)) := by
  refine bind world fun now => ?_
  split
  · exact decline
  · refine bind (waitUnlessSignalled _ _) fun came => ?_
    split
    · exact decline
    · exact take wake.arrival

/-- The loop on whatever arrives. -/
theorem loop (wakes : List WorkerWake) :
    Scripts consumer (Consumer.loop consumer
      (wakes.map fun wake => ⟨wake.delay, wake.tie, wake.arrival.arrival⟩)) := by
  induction wakes with
  | nil => exact bind world fun _ => bind (stopIf _) fun _ => bind (log _ _ _ _) fun _ => pure _
  | cons wake rest ih =>
    refine bind (turn wake) fun taken => ?_
    cases taken with
    | goesOn => exact ih
    | ended result => exact pure _
    | declined | stuck => exact pure _

/-- The requests of a set-up. -/
theorem sendGranted (requests : List Broker.Request) :
    Scripts consumer (Broker.Session.sendGranted requests) := by
  induction requests with
  | nil => exact pure _
  | cons first rest ih =>
    refine bind (request first) fun _ => bind ?_ fun _ => ih
    cases first with
    | connect _ | limit _ => exact pure _
    | channel | declare _ _ | consume _ _ _ => exact log _ _ _ _

/-- A session with the broker. -/
theorem session (prefetch : UInt16) (met : WorkerSession) :
    Scripts consumer (Broker.Session.run consumer prefetch met.session) := by
  refine bind (sendGranted _) fun _ => ?_
  split
  · rename_i refused _
    refine bind (request refused) fun _ => ?_
    split
    · exact bind (close _) fun _ => pure _
    · exact pure _
  · exact bind (log _ _ _ _) fun _ => bind (loop met.wakes) fun _ => bind (close _) fun _ => pure _

/-- Supervised sessions. -/
theorem supervise (prefetch : UInt16) (retryDelay : Nat)
    (attempts : List (Supervision.Attempt WorkerSession)) :
    Scripts consumer (Supervision.supervise retryDelay
      (fun met => Broker.Session.run consumer prefetch met.session) attempts) := by
  induction attempts with
  | nil =>
    refine bind world fun _ => ?_
    split
    · exact bind (log _ _ _ _) fun _ => pure _
    · exact bind (happen rfl) fun _ => bind (happen rfl) fun _ =>
        bind (log _ _ _ _) fun _ => pure _
  | cons next rest ih =>
    refine bind world fun _ => ?_
    split
    · exact bind (log _ _ _ _) fun _ => pure _
    · refine bind (bind (happen rfl) fun _ => bind (session prefetch next.session) fun _ =>
        bind (happen rfl) fun _ => pure _) fun result => ?_
      cases result with
      | ok _ => exact bind (log _ _ _ _) fun _ => pure _
      | error error =>
        refine bind (bind (log _ _ _ _) fun _ => happen rfl) fun _ =>
          bind (waitUnlessSignalled _ _) fun came => ?_
        split
        · exact bind (log _ _ _ _) fun _ => pure _
        · exact ih

end Scripts

/-- What is noticed of a supervised worker is a script. -/
theorem scripted_workerJournal (consumer : Consumer) (prefetch : UInt16) (retryDelay : Nat)
    (attempts : List (Supervision.Attempt WorkerSession)) (world : World) :
    Scripted consumer (workerJournal consumer prefetch retryDelay attempts world).noticed :=
  Scripts.supervise prefetch retryDelay attempts world

end EventLedger

import EventLedger.Proofs.Independence
import Mathlib.Data.List.Forall2

/-!
# What is reported about messages

What became of a message is told in four places: in the record about its outcome, in what its queue
is told, in the record that complains when telling it fails, and in the metrics. `Report` has all of
them side by side, `Report.Suits` says how they belong together, and the journal of a run is one
report after another.
-/
namespace EventLedger

namespace Metrics

/-- The metrics after a journal. -/
def following (metrics : Metrics) (journal : Journal) : Metrics :=
  journal.foldl (fun metrics entry => metrics.add entry.what) metrics

/-- The number of messages of a queue that were counted, whatever it was told about them. -/
def messagesOf (metrics : Metrics) (queue : String) : Nat :=
  metrics.count (.messages queue .acknowledge) + metrics.count (.messages queue .requeue) +
    metrics.count (.messages queue .drop)

/-- A counter of messages rises by the measurements of its queue and its decision. -/
theorem count_messages_following (metrics : Metrics) (journal : Journal) (queue : String)
    (decision : Decision) :
    (metrics.following journal).count (.messages queue decision) =
      metrics.count (.messages queue decision) + journal.measurements.countP fun measurement =>
        measurement.queue = queue ∧ measurement.decision = decision := by
  rw [following, count_foldl, ← count_ofJournal, count_messages_ofJournal]

/-- The decisions about the messages of a queue are told apart. -/
theorem countP_decisions (measurements : List Measurement) (queue : String) :
    (measurements.filter (·.queue = queue)).length =
      (measurements.countP fun measurement =>
          measurement.queue = queue ∧ measurement.decision = .acknowledge) +
        (measurements.countP fun measurement =>
          measurement.queue = queue ∧ measurement.decision = .requeue) +
        measurements.countP fun measurement =>
          measurement.queue = queue ∧ measurement.decision = .drop := by
  induction measurements with
  | nil => rfl
  | cons measurement rest ih =>
    obtain ⟨other, decision, millis⟩ := measurement
    simp only [List.countP_cons, List.filter_cons]
    by_cases own : other = queue
    · cases decision <;> simp [own, ih] <;> omega
    · simp [own, ih]

/-- The durations of a queue and its counters grow by the same number. -/
theorem samples_following (metrics : Metrics) (journal : Journal) (queue : String) :
    ∃ samples, (metrics.following journal).durationsOf queue =
        metrics.durationsOf queue ++ samples ∧
      (metrics.following journal).messagesOf queue =
        metrics.messagesOf queue + samples.length := by
  refine ⟨_, durationsOf_foldl metrics journal queue, ?_⟩
  have decided := countP_decisions journal.measurements queue
  simp only [messagesOf, count_messages_following, List.length_map, decided]
  omega

end Metrics

namespace Consumer

/-! ## Reports -/

/-- A message ends well: its body is an event, and the store says in time that it is stored. -/
def Handling.Commits (consumer : Consumer) (handling : Handling) : Prop :=
  ∃ event, Decodes handling.delivery.kind handling.delivery.body event ∧
    (handling.store event).AnswersWithin consumer.timeLimit (.ok ())

/-- The name of what is done with the events of a queue. -/
def operationName (verb : String) : EventKind → String
  | .usage => verb ++ "_usage_event"
  | .audit => verb ++ "_audit_event"

/-- All that is said about one message. -/
structure Report where
  /-- What is logged about its outcome. -/
  record : Log.Record
  /-- What its queue is told. -/
  decision : Decision
  /-- What is logged when telling it fails. -/
  complaints : List Log.Record
  /-- The milliseconds that it took. -/
  millis : Nat

namespace Report

/-- What happens with a message that is reported so: it is taken and received, the store does its
own, the outcome is logged, the queue is told, and the message is measured. -/
def notes (consumer : Consumer) (handling : Handling) (report : Report) : List Occurrence :=
  [.took handling.delivery.kind,
      .received handling.delivery.kind handling.delivery.tag handling.delivery.body] ++
    handling.storing consumer ++
    [.logged report.record, .settled handling.delivery.tag report.decision] ++
    report.complaints.map .logged ++
    [.measured (consumer.queueName handling.delivery.kind) report.decision report.millis]

/-- A report is right about a message, and its parts agree with each other. -/
structure Suits (consumer : Consumer) (handling : Handling) (report : Report) : Prop where
  /-- The queue is told that the message is done with exactly if it ends well. -/
  committed : report.decision = .acknowledge ↔ handling.Commits consumer
  /-- The record is a detail if the message ends well. -/
  detail : handling.Commits consumer → report.record.level = .debug
  /-- It is an error if not, and says whether the message goes back into its queue. -/
  error : ¬handling.Commits consumer →
    report.record.level = .error ∧
      report.record.field? "requeue" = some (if report.decision = .requeue then "true" else "false")
  /-- It names reading if the body is no event. -/
  unread : ∀ cause, Rejects handling.delivery.kind handling.delivery.body cause →
    report.record.field? "operation" = some (operationName "parse" handling.delivery.kind)
  /-- It names storing if the event is not stored. -/
  unstored : ∀ event, Decodes handling.delivery.kind handling.delivery.body event →
    ¬handling.Commits consumer →
      report.record.field? "operation" = some (operationName "persist" handling.delivery.kind)
  /-- Nothing is complained of if telling the queue goes well. -/
  content : handling.settlement.failure = none → report.complaints = []
  /-- If it fails, one warning names what the queue should have been told. -/
  complains : handling.settlement.failure.isSome → ∃ warning, report.complaints = [warning] ∧
    warning.level = .warn ∧ warning.field? "decision" = some report.decision.text

end Report

namespace Handling

variable (consumer : Consumer) (handling : Handling)

/-- What is reported about a message. -/
def report : Report where
  record := outcomeRecord consumer handling.delivery.kind (handling.outcome consumer)
  decision := (handling.outcome consumer).decision
  complaints := handling.settlement.failure.toList.map
    (settlementRecord consumer handling.delivery.kind (handling.outcome consumer))
  millis := handling.millis consumer

/-- A message is acknowledged exactly if it ends well. -/
theorem decision_outcome_eq_acknowledge :
    (handling.outcome consumer).decision = .acknowledge ↔ handling.Commits consumer := by
  unfold outcome Commits
  cases read : Event.ofBody handling.delivery.kind handling.delivery.body with
  | error cause => simp [Outcome.decision, ← Event.ofBody_eq_ok, read]
  | ok event => simp [StoreResponse.decision_eq_acknowledge, ← Event.ofBody_eq_ok, read]

/-- The outcome of a message whose body is an event is that the event is stored, or why it is
not. -/
theorem outcome_of_decodes {event : Event}
    (decodes : Decodes handling.delivery.kind handling.delivery.body event) :
    handling.outcome consumer = .committed ∨
      ∃ cause, handling.outcome consumer = .failed cause := by
  simp only [outcome, Event.ofBody_eq_ok.mpr decodes, StoreResponse.outcomeWithin]
  cases (handling.store event).delay with
  | none => exact .inr ⟨_, rfl⟩
  | some delay =>
    simp only
    split
    · cases (handling.store event).answer with
      | ok _ => exact .inl rfl
      | error cause => exact .inr ⟨cause, rfl⟩
    · exact .inr ⟨_, rfl⟩

end Handling

/-- A failure is logged as an error that says whether the message goes back. -/
theorem outcomeRecord_of_ne_committed (consumer : Consumer) (kind : EventKind) {outcome : Outcome}
    (failed : outcome ≠ .committed) :
    (outcomeRecord consumer kind outcome).level = .error ∧
      (outcomeRecord consumer kind outcome).field? "requeue" =
        some (if outcome.decision = .requeue then "true" else "false") := by
  cases outcome with
  | committed => exact absurd rfl failed
  | invalid cause => simp [outcomeRecord, Log.Record.field?, Log.boolText, List.lookup_cons]
  | failed cause => simp [outcomeRecord, Log.Record.field?, Log.boolText, List.lookup_cons]

/-- What is reported about a message is right. -/
theorem Handling.report_suits (consumer : Consumer) (handling : Handling) :
    (handling.report consumer).Suits consumer handling where
  committed := handling.decision_outcome_eq_acknowledge consumer
  detail commits := by
    have acknowledged := (handling.decision_outcome_eq_acknowledge consumer).mpr commits
    obtain ⟨event, decodes, _⟩ := commits
    obtain stored | ⟨cause, unstored⟩ := handling.outcome_of_decodes consumer decodes
    · simp only [report, stored, outcomeRecord]
    · simp only [unstored, Outcome.decision] at acknowledged
      split at acknowledged <;> cases acknowledged
  error fails := by
    refine outcomeRecord_of_ne_committed consumer _ fun stored => fails ?_
    rw [← decision_outcome_eq_acknowledge, stored]
    rfl
  unread cause rejects := by
    have invalid : handling.outcome consumer = .invalid cause := by
      simp only [outcome, Event.ofBody_eq_error.mpr rejects]
    simp only [report, invalid, outcomeRecord]
    cases handling.delivery.kind <;> rfl
  unstored event decodes fails := by
    obtain stored | ⟨cause, unstored⟩ := handling.outcome_of_decodes consumer decodes
    · exact absurd ((handling.decision_outcome_eq_acknowledge consumer).mp (by rw [stored]; rfl))
        fails
    · simp only [report, unstored, outcomeRecord]
      cases handling.delivery.kind <;> rfl
  content well := by simp [report, well]
  complains fails := by
    obtain ⟨reason, failure⟩ := Option.isSome_iff_exists.mp fails
    refine ⟨settlementRecord consumer handling.delivery.kind (handling.outcome consumer) reason,
      by simp [report, failure], rfl, ?_⟩
    simp [report, settlementRecord, Log.Record.field?, List.lookup_cons]

/-- What happens with an item is a report of a message, or the item is only taken. -/
structure Tells (consumer : Consumer) (serving : Serving) (part : List Occurrence) : Prop where
  /-- A message has a report. -/
  message : ∀ handling, serving.handling? = some handling →
    ∃ report : Report, report.Suits consumer handling ∧ part = report.notes consumer handling
  /-- Nothing else has one. -/
  other : serving.handling? = none → part = [.took serving.kind]

/-- What is noted of an item tells of it. -/
theorem Serving.tells_notes (consumer : Consumer) (serving : Serving) :
    Tells consumer serving (serving.notes consumer) where
  message handling message := by
    refine ⟨handling.report consumer, handling.report_suits consumer, ?_⟩
    have complaint : (handling.report consumer).complaints.map .logged =
        handling.complaint consumer := by
      unfold Handling.report Handling.complaint
      cases handling.settlement.failure <;> rfl
    rw [Report.notes, complaint, notes, doings, message]
    simp [Handling.occurrences, Handling.report, kind_of_handling? message]
  other message := by rw [notes, doings, message]

/-! ## Runs -/

/-- The journal of a run is what is told of its items, one after another, and at last that the loop
stops, if it does. -/
structure ReportsAll (feed : Feed) (run : Run Feed.Progress) (consumer : Consumer)
    (servings : List Serving) (parts : List (List Occurrence)) : Prop where
  /-- The items are those that the feed hands out. -/
  handed : feed.HandsOut [] servings
  /-- Each has its part. -/
  tells : List.Forall₂ (Tells consumer) servings parts
  /-- There is nothing else but changes of the wish to go on. -/
  notes : run.journal.only Occurrence.isNote = parts.flatten ++ farewell run.value.result

/-- The metrics grow by what the queues are told. -/
structure CountsSettlements (consumer : Consumer) (journal : Journal) (before after : Metrics) :
    Prop where
  /-- A counter of a queue grows by the deliveries about which the queue was told so. -/
  counters : ∀ kind decision,
    after.count (.messages (consumer.queueName kind) decision) =
      before.count (.messages (consumer.queueName kind) decision) +
        (journal.settlementsOf kind).countP (·.2 = decision)
  /-- The counters of other names stay as they are. -/
  others : ∀ queue, (∀ kind, queue ≠ consumer.queueName kind) → ∀ decision,
    after.count (.messages queue decision) = before.count (.messages queue decision)
  /-- Each name has as many more durations as its counters have grown. -/
  samples : ∀ queue, ∃ samples,
    after.durationsOf queue = before.durationsOf queue ++ samples ∧
      after.messagesOf queue = before.messagesOf queue + samples.length

/-- A message is settled once, as it is measured. -/
theorem Serving.settlements_doings (consumer : Consumer) (serving : Serving) :
    ((serving.doings consumer).filterMap Journal.settlement?).map Prod.snd =
      (serving.measurement? consumer).toList.map Measurement.decision := by
  have deeds : ∀ what : Occurrence, what.isDeed = false → Journal.settlement? what = none := by
    intro what
    cases what <;> simp [Occurrence.isDeed, Journal.settlement?]
  unfold doings measurement?
  cases serving.handling? with
  | none => rfl
  | some handling =>
    have settled : (handling.occurrences consumer).filterMap Journal.settlement? =
        [(handling.delivery.tag, (handling.outcome consumer).decision)] := by
      rw [← handling.settlements_deeds consumer, ← handling.filter_isDeed_occurrences consumer,
        List.filterMap_filter]
      refine List.filterMap_congr fun what _ => ?_
      cases deed : what.isDeed with
      | true => rfl
      | false => simp [deeds what deed]
    simp [settled]

namespace Recounts

variable {feed : Feed} {consumer : Consumer} {taken : List EventKind} {servings : List Serving}
  {run : Run Feed.Progress}

/-- What the queue of a kind is told is what is measured of its messages. -/
theorem settlementsOf_eq (recounts : Recounts feed consumer taken servings run)
    (kind : EventKind) :
    (run.journal.settlementsOf kind).map Prod.snd =
      ((fromQueue kind servings).filterMap (Serving.measurement? consumer)).map
        Measurement.decision := by
  rw [Journal.settlementsOf, recounts.ofQueue_eq]
  induction fromQueue kind servings with
  | nil => rfl
  | cons serving rest ih =>
    have own := serving.settlements_doings consumer
    rw [List.flatMap_cons, List.filterMap_append, List.map_append, own, ih, List.filterMap_cons]
    cases serving.measurement? consumer <;> rfl

/-- What the queues are told is what is counted. -/
theorem countsSettlements (recounts : Recounts feed consumer taken servings run)
    (distinct : consumer.usageQueue ≠ consumer.auditQueue) (before : Metrics) :
    CountsSettlements consumer run.journal before (before.following run.journal) where
  counters kind decision := by
    have told : (run.journal.settlementsOf kind).countP (·.2 = decision) =
        ((run.journal.settlementsOf kind).map Prod.snd).countP (· = decision) := by
      rw [List.countP_map]
      rfl
    rw [Metrics.count_messages_following, recounts.measurements_eq, told, recounts.settlementsOf_eq,
      ← filter_measurements distinct, List.countP_map, List.countP_filter]
    congr 2
    funext measurement
    simp [and_comm]
  others queue foreign decision := by
    rw [Metrics.count_messages_following, recounts.measurements_eq, List.countP_eq_zero.mpr,
      Nat.add_zero]
    intro measurement among
    obtain ⟨serving, _, measured⟩ := List.mem_filterMap.mp among
    obtain ⟨handling, _, rfl⟩ := Option.map_eq_some_iff.mp measured
    simp [Ne.symm (foreign serving.kind)]
  samples := Metrics.samples_following before run.journal

end Recounts

/-- Records, settlements and metrics agree: in every run each message is reported as it is settled,
and whatever was counted before, the metrics grow by what the queues are told. -/
theorem reports_agree {consumer : Consumer} (distinct : consumer.usageQueue ≠ consumer.auditQueue)
    (feed : Feed) (turns : Nat) (world : World) :
    let run := feed.run consumer turns [] world
    (∃ servings parts, ReportsAll feed run consumer servings parts) ∧
      ∀ before, CountsSettlements consumer run.journal before (before.following run.journal) := by
  intro run
  obtain ⟨servings, recounts⟩ := feed.run_recounts consumer turns [] world
  refine ⟨⟨servings, servings.map (Serving.notes consumer), recounts.handed, ?_, ?_⟩,
    recounts.countsSettlements distinct⟩
  · simp only [List.forall₂_map_right_iff, List.forall₂_same]
    exact fun serving _ => serving.tells_notes consumer
  · rw [recounts.notes, List.flatMap_def]

/-- A message whose settlement fails is counted like the others: two usage events are dropped and
counted as such, though the queue does not hear of the second. -/
theorem few_messages_are_counted :
    let consumer : Consumer := { usageQueue := "usage", auditQueue := "audit", timeLimit := 500 }
    let run := (Traffic.few.feed .usageFirst).run consumer 9 []
      { World.start with planned := some (100, .stop) }
    run.journal.settlementsOf .usage = [(1, .drop), (3, .drop)] ∧
      CountsSettlements consumer run.journal .empty (Metrics.ofJournal run.journal) :=
  ⟨by decide +kernel, (reports_agree (by decide) _ _ _).2 .empty⟩

end Consumer

end EventLedger

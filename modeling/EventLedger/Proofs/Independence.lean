import EventLedger.Consumer.Traffic
import EventLedger.Proofs.Chronicle

/-!
# Two queues do not influence each other

A loop that has taken all messages of two queues has dealt with the messages of each queue one after
another, in the order of the queue, and nothing of what it did with one of them depends on the other
queue, on the time or on the choices of the loop. So two runs over the same traffic that go by
different timetables cannot be told apart by what is seen of one queue.
-/
namespace EventLedger.Consumer

/-- A store that never says that it has ended lets the loop go on. -/
theorem StoreResponse.fatalError?_outcomeWithin {response : StoreResponse}
    (mild : ∀ cause, response.answer ≠ .error (.fatal cause)) (timeLimit : Nat) :
    (response.outcomeWithin timeLimit).fatalError? = none := by
  obtain answers | late := response.answersWithin_or_isLate timeLimit
  · rw [outcomeWithin_of_answersWithin answers]
    cases given : response.answer with
    | ok value => rfl
    | error error =>
      cases error with
      | fatal cause => exact absurd given (mild cause)
      | retriable _ | rejected _ | timeout _ => rfl
  · rw [outcomeWithin_of_isLate late]
    rfl

namespace Traffic

variable {traffic : Traffic} {timetable : Timetable} {consumer : Consumer}

/-- A message of a queue that is taken. -/
def serving (traffic : Traffic) (kind : EventKind) (message : Message) : Serving :=
  { kind, item := traffic.item message }

/-- All messages of both queues have been taken. -/
def AllTaken (traffic : Traffic) (journal : Journal) : Prop :=
  ∀ kind, (traffic.messages kind).length ≤ journal.takings.count kind

/-- Whether all of a traffic has been taken is decided by the journal. -/
instance (traffic : Traffic) (journal : Journal) : Decidable (traffic.AllTaken journal) :=
  decidable_of_iff ((traffic.messages .usage).length ≤ journal.takings.count .usage ∧
      (traffic.messages .audit).length ≤ journal.takings.count .audit)
    ⟨fun both kind => by cases kind <;> simp [both], fun all => ⟨all .usage, all .audit⟩⟩

/-- What has been taken stays taken. -/
theorem AllTaken.append {journal : Journal} (taken : traffic.AllTaken journal) (more : Journal) :
    traffic.AllTaken (journal ++ more) := by
  intro kind
  rw [Journal.takings_append, List.count_append]
  exact Nat.le_add_right_of_le (taken kind)

/-- A run of a loop that shall go on at first comes to an end, and the wish to go on does not change
before all messages of both queues have been taken. -/
structure DrainsFirst (traffic : Traffic) (world : World) (run : Run Feed.Progress) : Prop where
  /-- The loop shall go on at first. -/
  begins : world.signal = .running
  /-- It comes to an end. -/
  ended : run.value.result.isSome
  /-- All messages are taken before the wish to go on changes. -/
  late : ∀ before entry after, run.journal = before ++ entry :: after →
    entry.what.isChange = true → traffic.AllTaken before

/-- It is enough to look at what happens before the wish to go on changes for the first time. -/
theorem DrainsFirst.of_takeWhile {world : World} {run : Run Feed.Progress}
    (begins : world.signal = .running) (ended : run.value.result.isSome)
    (taken : traffic.AllTaken (run.journal.takeWhile fun entry => !entry.what.isChange)) :
    traffic.DrainsFirst world run where
  begins := begins
  ended := ended
  late := by
    intro before entry after split change
    have first : run.journal.takeWhile (fun entry => !entry.what.isChange) <+: before := by
      rw [split, List.takeWhile_append]
      split
      · simp [change]
      · exact List.takeWhile_prefix _
    obtain ⟨more, rfl⟩ := first
    exact taken.append more

/-- What is handed out of a queue is the beginning of what has not been taken. -/
theorem fromQueue_isPrefix {taken : List EventKind} {servings : List Serving}
    (handed : (traffic.feed timetable).HandsOut taken servings) (kind : EventKind) :
    fromQueue kind servings <+:
      ((traffic.messages kind).drop (taken.count kind)).map (traffic.serving kind) := by
  rw [List.prefix_iff_getElem?]
  intro place within
  obtain ⟨offer, offered, own⟩ := handed.offer_of_getElem? (List.getElem?_eq_getElem within)
  obtain ⟨message, held, rfl⟩ := Option.map_eq_some_iff.mp offered
  rw [List.getElem?_map, List.getElem?_drop, held, own]
  rfl

/-- What is handed out is among the messages. -/
theorem mem_messages_of_handsOut {taken : List EventKind} {servings : List Serving}
    (handed : (traffic.feed timetable).HandsOut taken servings) {serving : Serving}
    (among : serving ∈ servings) :
    ∃ message, serving = traffic.serving serving.kind message := by
  have own : serving ∈ fromQueue serving.kind servings :=
    List.mem_filter.mpr ⟨among, by simp⟩
  obtain ⟨message, _, same⟩ :=
    List.mem_map.mp ((fromQueue_isPrefix handed serving.kind).subset own)
  exact ⟨message, same.symm⟩

/-- A store that never says that it has ended is no reason to end. -/
theorem failure?_serving_eq_none
    (mild : ∀ event cause, (traffic.store event).answer ≠ .error (.fatal cause))
    (kind : EventKind) (message : Message) :
    (traffic.serving kind message).failure? consumer = none := by
  let handling : Handling :=
    { delivery := ⟨kind, message.tag, message.body⟩, store := traffic.store,
      settlement := message.settlement }
  have goesOn : (handling.outcome consumer).fatalError? = none := by
    unfold Handling.outcome
    cases Event.ofBody handling.delivery.kind handling.delivery.body with
    | error error => rfl
    | ok event => exact StoreResponse.fatalError?_outcomeWithin (mild event) _
  exact Option.map_eq_none_iff.mpr goesOn

/-- When the wish to go on has changed in a journal, there is an entry that says so. -/
theorem exists_isChange {journal : Journal}
    (halted : Signal.running.afterAll journal ≠ .running) :
    ∃ entry ∈ journal, entry.what.isChange = true := by
  rw [Ne, Signal.afterAll_running, Journal.changes, List.filterMap_eq_nil_iff] at halted
  push Not at halted
  obtain ⟨entry, among, change⟩ := halted
  refine ⟨entry, among, ?_⟩
  revert change
  cases entry.what <;> simp [Occurrence.isChange]

/-- A run that drains its queues first has taken all messages. -/
theorem DrainsFirst.allTaken {turns : Nat} {world : World}
    (mild : ∀ event cause, (traffic.store event).answer ≠ .error (.fatal cause))
    (drains : traffic.DrainsFirst world
      ((traffic.feed timetable).run consumer turns [] world)) :
    traffic.AllTaken ((traffic.feed timetable).run consumer turns [] world).journal := by
  obtain ⟨servings, ends⟩ := (traffic.feed timetable).run_ends consumer turns [] world
  obtain ⟨result, come⟩ := Option.isSome_iff_exists.mp drains.ended
  cases result with
  | error error =>
    -- A loop fails only with an item, and no message is a reason to.
    obtain ⟨serving, last, failure⟩ := (ends.fails error).mp come
    obtain ⟨message, same⟩ :=
      mem_messages_of_handsOut ends.handed (List.mem_of_getLast? last)
    rw [same, failure?_serving_eq_none mild] at failure
    cases failure
  | ok _ =>
    obtain ⟨before, begun, journal, halted⟩ := ends.stops come
    rw [drains.begins] at halted
    obtain ⟨entry, among, change⟩ := exists_isChange halted
    obtain ⟨first, rest, rfl⟩ := List.append_of_mem among
    have taken := drains.late first entry (rest ++ (decline begun).journal)
      (by rw [journal, List.append_assoc, List.cons_append]) change
    rw [journal, List.append_assoc]
    exact taken.append _

/-- When all messages have been taken, those of each queue have been dealt with in its order. -/
theorem AllTaken.fromQueue_eq {servings : List Serving} {run : Run Feed.Progress}
    (taken : traffic.AllTaken run.journal)
    (recounts : Recounts (traffic.feed timetable) consumer [] servings run) (kind : EventKind) :
    fromQueue kind servings = (traffic.messages kind).map (traffic.serving kind) := by
  have begins := fromQueue_isPrefix recounts.handed kind
  rw [List.count_nil, List.drop_zero] at begins
  have many := taken kind
  rw [recounts.count_takings] at many
  refine begins.eq_of_length_le ?_
  rw [List.length_map]
  exact many

end Traffic

/-! ## Views that depend on the items of one queue -/

/-- The items of a run are those of one queue and those of the other. -/
theorem fromQueue_append_perm (servings : List Serving) :
    (fromQueue .usage servings ++ fromQueue .audit servings).Perm servings := by
  have others : fromQueue .audit servings =
      servings.filter fun serving => !decide (serving.kind = .usage) := by
    refine List.filter_congr fun serving _ => ?_
    cases serving.kind <;> rfl
  rw [others]
  exact List.filter_append_perm _ _

/-- Runs that take the same items of each queue measure the same messages. -/
theorem measurements_perm {consumer : Consumer} {first second : List Serving}
    (same : ∀ kind, fromQueue kind first = fromQueue kind second) :
    (first.filterMap (Serving.measurement? consumer)).Perm
      (second.filterMap (Serving.measurement? consumer)) := by
  refine List.Perm.filterMap _ ?_
  calc
    first.Perm (fromQueue .usage first ++ fromQueue .audit first) :=
      (fromQueue_append_perm first).symm
    _ = fromQueue .usage second ++ fromQueue .audit second := by rw [same, same]
    List.Perm _ second := fromQueue_append_perm second

/-- The queues of a consumer are told apart by their names. -/
theorem queueName_inj {consumer : Consumer} (distinct : consumer.usageQueue ≠ consumer.auditQueue)
    {kind other : EventKind} :
    consumer.queueName kind = consumer.queueName other ↔ kind = other := by
  cases kind <;> cases other <;> simp [Consumer.queueName, distinct, Ne.symm distinct]

/-- What is measured under the name of a queue are its messages. -/
theorem filter_measurements {consumer : Consumer}
    (distinct : consumer.usageQueue ≠ consumer.auditQueue) (kind : EventKind)
    (servings : List Serving) :
    (servings.filterMap (Serving.measurement? consumer)).filter
        (·.queue = consumer.queueName kind) =
      (fromQueue kind servings).filterMap (Serving.measurement? consumer) := by
  rw [List.filter_filterMap, fromQueue, List.filterMap_filter]
  refine List.filterMap_congr fun serving _ => ?_
  unfold Serving.measurement?
  cases serving.handling? with
  | none => simp
  | some handling => simp [Option.filter, queueName_inj distinct]

/-- What is seen of the queues of a consumer is the same in two journals. -/
structure LookAlike (consumer : Consumer) (first second : Journal) : Prop where
  /-- Each queue is told the same. -/
  settlements : ∀ kind, first.settlementsOf kind = second.settlementsOf kind
  /-- The same is logged about the deliveries of each queue. -/
  records : ∀ kind, first.recordsOf kind = second.recordsOf kind
  /-- Every counter of messages has the same value. -/
  counters : ∀ queue decision,
    (Metrics.ofJournal first).count (.messages queue decision) =
      (Metrics.ofJournal second).count (.messages queue decision)
  /-- The messages of each queue took the same times. -/
  durations : ∀ kind,
    (Metrics.ofJournal first).durationsOf (consumer.queueName kind) =
      (Metrics.ofJournal second).durationsOf (consumer.queueName kind)

/-- Runs that take the same items of each queue look alike. -/
theorem lookAlike_of_fromQueue {consumer : Consumer}
    (distinct : consumer.usageQueue ≠ consumer.auditQueue) {feed other : Feed}
    {taken before : List EventKind} {servings others : List Serving}
    {run later : Run Feed.Progress} (recounts : Recounts feed consumer taken servings run)
    (also : Recounts other consumer before others later)
    (same : ∀ kind, fromQueue kind servings = fromQueue kind others) :
    LookAlike consumer run.journal later.journal where
  settlements kind := by
    rw [Journal.settlementsOf, Journal.settlementsOf, recounts.ofQueue_eq, also.ofQueue_eq, same]
  records kind := by
    rw [Journal.recordsOf, Journal.recordsOf, recounts.ofQueue_eq, also.ofQueue_eq, same]
  counters queue decision := by
    rw [Metrics.count_messages_ofJournal, Metrics.count_messages_ofJournal,
      recounts.measurements_eq, also.measurements_eq]
    exact (measurements_perm same).countP_eq _
  durations kind := by
    rw [Metrics.durationsOf_ofJournal, Metrics.durationsOf_ofJournal, recounts.measurements_eq,
      also.measurements_eq, filter_measurements distinct, filter_measurements distinct, same]

/-- Two queues do not influence each other: when the same traffic goes by two timetables, and the
loop is not asked to stop before it has taken all messages, both runs look alike. -/
theorem queues_are_independent {consumer : Consumer}
    (distinct : consumer.usageQueue ≠ consumer.auditQueue) {traffic : Traffic}
    (mild : ∀ event cause, (traffic.store event).answer ≠ .error (.fatal cause))
    {timetable other : Timetable} {turns more : Nat} {world begun : World}
    (drains : traffic.DrainsFirst world ((traffic.feed timetable).run consumer turns [] world))
    (also : traffic.DrainsFirst begun ((traffic.feed other).run consumer more [] begun)) :
    LookAlike consumer ((traffic.feed timetable).run consumer turns [] world).journal
      ((traffic.feed other).run consumer more [] begun).journal := by
  obtain ⟨servings, recounts⟩ := (traffic.feed timetable).run_recounts consumer turns [] world
  obtain ⟨others, recountsOther⟩ := (traffic.feed other).run_recounts consumer more [] begun
  refine lookAlike_of_fromQueue distinct recounts recountsOther fun kind => ?_
  rw [(drains.allTaken mild).fromQueue_eq recounts, (also.allTaken mild).fromQueue_eq recountsOther]

/-- Two messages that are no events and the report of a login, and a store that takes its time. -/
def Traffic.few : Traffic where
  messages
    | .usage =>
      [{ tag := 1, body := [], settlement := { stops := false, delay := 7, failure := none } },
        { tag := 3, body := "\x7b\x7d".toList.map Json.byte,
          settlement := { stops := false, delay := 0, failure := some "channel closed" } }]
    | .audit =>
      [{ tag := 2, settlement := { stops := false, delay := 20, failure := none },
         body := "\x7b\"type\":\"audit_event\",\"action\":\"login\"\x7d".toList.map Json.byte }]
  store _ := { opening := [], stops := false, delay := some 5, answer := .ok (), closing := [] }

/-- Everything is there from the beginning, and usage events go first. -/
def Timetable.usageFirst : Timetable where
  readyAt _ _ := 0
  favourite _ := .usage
  tie _ := .signal

/-- Usage events come late. -/
def Timetable.usageLate : Timetable where
  readyAt
    | .usage, place => 30 + 40 * place
    | .audit, _ => 0
  favourite _ := .audit
  tie _ := .other

/-- A few messages are taken in different orders, and nobody sees it who looks at one queue. -/
theorem few_messages_look_alike :
    let consumer : Consumer := { usageQueue := "usage", auditQueue := "audit", timeLimit := 500 }
    let early := (Traffic.few.feed .usageFirst).run consumer 9 []
      { World.start with planned := some (100, .stop) }
    let late := (Traffic.few.feed .usageLate).run consumer 9 []
      { World.start with planned := some (200, .stop) }
    early.value.taken = [.usage, .usage, .audit] ∧ late.value.taken = [.audit, .usage, .usage] ∧
      LookAlike consumer early.journal late.journal :=
  ⟨by decide +kernel, by decide +kernel,
    queues_are_independent (by decide) (by simp [Traffic.few])
      (.of_takeWhile rfl (by decide +kernel) (by decide +kernel))
      (.of_takeWhile rfl (by decide +kernel) (by decide +kernel))⟩

end EventLedger.Consumer

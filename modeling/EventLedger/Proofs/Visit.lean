import EventLedger.Broker.Visit
import EventLedger.Proofs.Course
import EventLedger.Proofs.Stopping

/-!
# What a visit does

A visit prepares itself, runs its loop and leaves. Before and after the loop nothing is taken and
nothing is attempted, so what a visit does with deliveries is what its loop does, `Visited`. A visit
that is watched for more turns goes on from where it was, `Prolongs`.
-/
namespace EventLedger

/-! ## Before and after the loop -/

namespace Broker

/-- A warning has to do with no delivery. -/
theorem plain_warn (message : String) (error? : Option String) :
    (Session.warn message error?).Plain := by
  cases error? with
  | none => exact .pure ()
  | some error => exact .log _ _ _ _

/-- Neither has the end of a session. -/
theorem plain_close (unclosed : Session.Unclosed) : (Session.close unclosed).Plain :=
  .bind (plain_warn _ _) fun _ => .bind (plain_warn _ _) fun _ =>
    .bind (.happen nofun rfl rfl) fun _ => .log _ _ _ _

/-- That a request is granted is only said. -/
theorem plain_reportGranted (request : Request) : (Session.reportGranted request).Plain := by
  cases request with
  | connect _ | limit _ => exact .pure ()
  | channel | declare _ _ | consume _ _ _ => exact .log _ _ _ _

/-- Requests are sent plainly. -/
theorem plain_sendGranted (requests : List Request) : (Session.sendGranted requests).Plain := by
  induction requests with
  | nil => exact .pure ()
  | cons request rest ih =>
    exact .bind (.happen nofun rfl rfl) fun _ => .bind (plain_reportGranted request) fun _ => ih

/-- The start of the loop is only logged. -/
theorem plain_reportStart (consumer : Consumer) (prefetch : UInt16) :
    (Session.reportStart consumer prefetch).Plain := .log _ _ _ _

namespace Visit

variable (visit : Visit)

/-- A visit leaves plainly. -/
theorem plain_leave (result : Except WorkerError Unit) : (visit.leave result).Plain := by
  unfold leave
  cases visit.leaving with
  | none => exact .pure none
  | some leaving =>
    exact .bind (.wait leaving.delay) fun _ => .bind (plain_close leaving.unclosed) fun _ => .pure _

/-- It does so at a request that is refused. -/
theorem plain_endRefused (request : Request) (reason : String) :
    (visit.endRefused request reason).Plain := by
  unfold endRefused
  simp only
  split
  · exact .pure _
  · exact visit.plain_leave _

/-- A visit that can leave ends with the result for which it leaves. -/
theorem leave_value (result : Except WorkerError Unit) (world : World) :
    (visit.leave result world).value = visit.leaving.map fun _ => result := by
  unfold leave
  cases visit.leaving <;> rfl

/-- A visit that is refused does not end well. -/
theorem endRefused_value (request : Request) (reason : String) (world : World) :
    (visit.endRefused request reason world).value ≠ some (.ok ()) := by
  unfold endRefused
  cases Session.precedesChannel request with
  | true => exact nofun
  | false =>
    change (visit.leave _ world).value ≠ _
    rw [leave_value]
    cases visit.leaving <;> exact nofun

end Visit

end Broker

/-! ## Loops -/

namespace Consumer

/-- Storing an event makes no mark. -/
theorem filter_isMark_storing (consumer : Consumer) (handling : Handling) :
    (handling.storing consumer).filter isMark = [] := by
  have unmarked (deeds : List StoreDeed) :
      (deeds.map StoreDeed.occurrence).filter isMark = [] := by
    rw [List.filter_eq_nil_iff]
    rintro _ listed
    obtain ⟨deed, _, rfl⟩ := List.mem_map.mp listed
    rcases deed with (_ | _) | _ | _ <;> simp [StoreDeed.occurrence, isMark]
  unfold Handling.storing
  cases Event.ofBody handling.delivery.kind handling.delivery.body with
  | error error => rfl
  | ok event =>
    have unnoticed :
        ((handling.store event).answerNoticed consumer.timeLimit).filter isMark = [] := by
      unfold StoreResponse.answerNoticed
      split
      · rfl
      · split <;> rfl
    simp [StoreResponse.occurrences, unmarked, unnoticed, isMark]

/-- No attempt is made while an item is dealt with. -/
theorem unmarked_take (consumer : Consumer) (kind : EventKind) (item : Item) (world : World) :
    (take consumer (item.arrival kind) world).journal.only isMark = [] := by
  cases item with
  | message tag body store settlement =>
    let handling : Handling := { delivery := ⟨kind, tag, body⟩, store, settlement }
    have quiet : (handling.complaint consumer).filter isMark = [] := by
      unfold Handling.complaint
      cases handling.settlement.failure <;> rfl
    have unmarked : (.took kind :: handling.occurrences consumer).filter isMark = [] := by
      simp [Handling.occurrences, filter_isMark_storing, quiet, isMark]
    exact (only_take_delivery isSilent_isMark.ignoresSignals consumer handling world).trans unmarked
  | failure reason => rfl
  | closed => rfl

/-- No attempt is made in a turn. -/
theorem Turned.unmarked {consumer : Consumer} {world : World} {wake? : Option Wake}
    {run : Run Turn} (turned : Turned consumer world wake? run)
    (item : ∀ wake, wake? = some wake → ∃ kind item, wake.arrival = Item.arrival kind item) :
    run.journal.only isMark = [] := by
  cases turned with
  | declined waits halted =>
    rw [Journal.only_append, waits.quiet.only isSilent_isMark.ignoresSignals,
      only_decline isSilent_isMark]
    rfl
  | took waits goesOn =>
    obtain ⟨kind, item, arrival⟩ := item _ rfl
    rw [Journal.only_append, waits.quiet.only isSilent_isMark.ignoresSignals, arrival,
      unmarked_take]
    rfl
  | stuck never => rfl

/-- No attempt is made in a loop. -/
theorem Feed.unmarked_run (feed : Feed) (consumer : Consumer) (turns : Nat)
    (taken : List EventKind) (world : World) :
    (feed.run consumer turns taken world).journal.only isMark = [] := by
  induction turns generalizing taken world with
  | zero => rfl
  | succ turns ih =>
    cases next : feed.next? taken world.now with
    | none =>
      have unmarked := (turned_turn consumer none world).unmarked nofun
      rw [run_succ_of_none next]
      generalize Consumer.turn consumer none world = turned at unmarked ⊢
      simp only
      split <;> exact unmarked
    | some choice =>
      obtain ⟨kind, offer⟩ := choice
      let wake := feed.wake taken world.now kind offer
      have unmarked := (turned_turn consumer (some wake) world).unmarked
        fun _ is => ⟨kind, offer.item, Option.some.inj is ▸ rfl⟩
      rw [run_succ_of_some next]
      simp only
      cases (Consumer.turn consumer (some wake) world).value with
      | goesOn =>
        change Journal.only isMark (_ ++ _) = []
        rw [Journal.only_append, unmarked, ih]
        rfl
      | ended _ | declined | stuck => exact unmarked

end Consumer

/-! ## Visits -/

open Consumer (Serving Feed isTaking only_isTaking)

/-- What a run does that takes some items of a feed. -/
structure Visited (consumer : Consumer) (feed : Feed) (world : World)
    (servings : List Serving) (run : Run (Option (Except WorkerError Unit))) : Prop where
  /-- It keeps time. -/
  keeps : KeepsTime world run
  /-- No attempt is made in it. -/
  unmarked : run.journal.only isMark = []
  /-- The feed hands the items out. -/
  handed : feed.HandsOut [] servings
  /-- Each is dealt with as a whole, and nothing else is taken. -/
  deeds : run.journal.deeds = servings.flatMap (Serving.deeds consumer)
  /-- Nothing is taken if a stop has been asked for before. -/
  declines : world.signal = .stopped → run.journal.only isTaking = []
  /-- At most one item is taken after a stop. -/
  few : AtMostAfterStop isTaking 1 world.signal run.journal
  /-- If it ends well, the worker shall not go on. -/
  well : run.value = some (.ok ()) → run.world.signal ≠ .running

namespace Visited

variable {β : Type} {consumer : Consumer} {feed : Feed} {world : World}
  {servings : List Serving}

/-- Nothing is taken in a plain run. -/
theorem only_isTaking_of_plain {first : Sim β} (plain : first.Plain) (world : World) :
    (first world).journal.only isTaking = [] := by
  rw [only_isTaking, plain.deeds]
  rfl

/-- A plain run takes nothing. -/
theorem of_plain {run : Sim (Option (Except WorkerError Unit))} (plain : run.Plain) (world : World)
    (unwell : (run world).value ≠ some (.ok ())) :
    Visited consumer feed world [] (run world) where
  keeps := plain.orderly world
  unmarked := plain.unmarked world
  handed := .nil
  deeds := plain.deeds world
  declines := fun _ => only_isTaking_of_plain plain world
  few := .of_length_le (by rw [only_isTaking_of_plain plain world]; exact Nat.zero_le _)
  well := fun well => absurd well unwell

/-- A plain run may go before. -/
theorem after_plain {first : Sim β} (plain : first.Plain)
    {run : Run (Option (Except WorkerError Unit))}
    (visited : Visited consumer feed (first world).world servings run) :
    Visited consumer feed world servings ((first world).andThen run) := by
  have keeps := plain.orderly world
  have none := only_isTaking_of_plain plain world
  have few := visited.few
  have declines := visited.declines
  rw [keeps.signal] at few declines
  constructor
  · exact keeps.append visited.keeps
  · rw [Run.andThen, Journal.only_append, plain.unmarked, visited.unmarked]
    rfl
  · exact visited.handed
  · rw [Run.andThen, Journal.deeds, Journal.only_append, ← Journal.deeds, ← Journal.deeds,
      plain.deeds, visited.deeds]
    rfl
  · intro stopped
    rw [Run.andThen, Journal.only_append, none, declines (by rw [stopped, Signal.afterAll_stopped])]
    rfl
  · refine AtMostAfterStop.append (.of_length_le ?_) few declines
    rw [none]
    exact Nat.zero_le _
  · exact visited.well

end Visited

namespace Broker.Visit

variable (consumer : Consumer) (prefetch : UInt16) (turns : Nat) (visit : Visit)

/-- What a visit does after its loop has ended or has been watched long enough. -/
def afterLoop (progress : Feed.Progress) : Sim (Option (Except WorkerError Unit)) :=
  match progress.result with
  | none => pure none
  | some result => visit.leave result

/-- What comes after a loop is plain. -/
theorem plain_afterLoop (progress : Feed.Progress) : (visit.afterLoop progress).Plain := by
  unfold afterLoop
  cases progress.result with
  | none => exact .pure none
  | some result => exact visit.plain_leave result

/-- A visit ends well only if its loop has. -/
theorem result_of_afterLoop_value {progress : Feed.Progress} {world : World}
    (well : (visit.afterLoop progress world).value = some (.ok ())) :
    progress.result = some (.ok ()) := by
  unfold afterLoop at well
  cases result : progress.result with
  | none => simp [result] at well
  | some ended =>
    simp only [result, leave_value, Option.map_eq_some_iff] at well
    obtain ⟨_, _, rfl⟩ := well
    rfl

/-- The loop of a visit, and what comes after it. -/
theorem visited_loop (world : World) : ∃ servings,
    Visited consumer visit.feed world servings
      ((visit.feed.run consumer turns [] >>= visit.afterLoop) world) := by
  obtain ⟨servings, ends⟩ := visit.feed.run_ends consumer turns [] world
  refine ⟨servings, ?_⟩
  have keeps := Sim.Orderly.run visit.feed consumer turns [] world
  have unmarked := visit.feed.unmarked_run consumer turns [] world
  have declines : world.signal = .stopped → _ :=
    visit.feed.takings_run_of_stopped consumer turns []
  rw [Sim.bind_eq_andThen]
  generalize visit.feed.run consumer turns [] world = run at ends keeps unmarked declines ⊢
  have plain := visit.plain_afterLoop run.value
  have none := Visited.only_isTaking_of_plain plain run.world
  have whole := keeps.append (plain.orderly run.world)
  constructor
  · exact whole
  · rw [Run.andThen, Journal.only_append, unmarked, plain.unmarked]
    rfl
  · exact ends.handed
  · rw [Run.andThen, Journal.deeds, Journal.only_append, ← Journal.deeds, ← Journal.deeds,
      plain.deeds, ends.deeds, List.append_nil]
  · intro stopped
    rw [Run.andThen, Journal.only_append, declines stopped, none]
    rfl
  · refine ends.few.append (.of_length_le ?_) fun _ => none
    rw [none]
    exact Nat.zero_le _
  · intro well
    obtain ⟨before, told, journal, halted⟩ := ends.stops (visit.result_of_afterLoop_value well)
    have signal := whole.signal
    rw [journal, List.append_assoc] at signal
    rw [Run.andThen, signal]
    exact Signal.afterAll_append_ne_running halted _

/-- A visit that waits for an answer goes on with the items that are taken afterwards, or takes
none. -/
theorem visited_answered {goOn : Sim (Option (Except WorkerError Unit))}
    (goesOn : ∀ world, ∃ servings, Visited consumer visit.feed world servings (goOn world))
    (place : Nat) (request : Request) (world : World) : ∃ servings,
    Visited consumer visit.feed world servings (visit.answered goOn place request world) := by
  unfold answered
  cases (visit.answer place).delay with
  | none => exact ⟨[], .of_plain (.pure none) world nofun⟩
  | some delay =>
    have waits : (Sim.wait delay).Plain := .wait delay
    cases (visit.answer place).refusal with
    | some reason =>
      have plain := visit.plain_endRefused request reason
      have unwell := visit.endRefused_value request reason (Sim.wait delay world).world
      have refused : Visited consumer visit.feed _ [] _ := .of_plain plain _ unwell
      exact ⟨[], refused.after_plain waits⟩
    | none =>
      let begun := (Sim.wait delay world).world
      obtain ⟨servings, visited⟩ := goesOn (Session.reportGranted request begun).world
      have granted := visited.after_plain (plain_reportGranted request)
      exact ⟨servings, granted.after_plain waits⟩

/-- So does a set-up. -/
theorem visited_setUp {goOn : Sim (Option (Except WorkerError Unit))}
    (goesOn : ∀ world, ∃ servings, Visited consumer visit.feed world servings (goOn world))
    (place : Nat) (requests : List Request) (world : World) : ∃ servings,
    Visited consumer visit.feed world servings (visit.setUp goOn place requests world) := by
  induction requests generalizing place world with
  | nil => exact goesOn world
  | cons request rest ih =>
    have sent : (Sim.happen (.requested request)).Plain := .happen nofun rfl rfl
    obtain ⟨servings, visited⟩ := visited_answered consumer visit (ih (place + 1)) place request
      (Sim.happen (.requested request) world).world
    exact ⟨servings, visited.after_plain sent⟩

/-- Every visit goes so. -/
theorem visited_run (world : World) : ∃ servings,
    Visited consumer visit.feed world servings (visit.run consumer prefetch turns world) := by
  refine visited_setUp consumer visit (fun world => ?_) 0 _ world
  obtain ⟨servings, visited⟩ := visited_loop consumer turns visit
    (Session.reportStart consumer prefetch world).world
  exact ⟨servings, visited.after_plain (plain_reportStart consumer prefetch)⟩

/-- A visit keeps time. -/
theorem orderly_run : (visit.run consumer prefetch turns).Orderly := by
  intro world
  obtain ⟨_, visited⟩ := visited_run consumer prefetch turns visit world
  exact visited.keeps

/-- No attempt begins or ends in a visit. -/
theorem unmarked_run (world : World) :
    (visit.run consumer prefetch turns world).journal.only isMark = [] := by
  obtain ⟨_, visited⟩ := visited_run consumer prefetch turns visit world
  exact visited.unmarked

end Broker.Visit

/-! ## Longer visits -/

/-- A run goes on where another one is watched no longer: it is the same if that one has ended, and
otherwise it ends well if a stop has been asked for by then. -/
structure Prolongs (short long : Sim (Option (Except WorkerError Unit))) : Prop where
  /-- What has ended is not changed. -/
  ended : ∀ world, (short world).value.isSome → long world = short world
  /-- After a stop it ends well. -/
  stopped : ∀ world, (short world).value = none → (short world).world.signal = .stopped →
    (long world).value = some (.ok ())

namespace Prolongs

/-- A run that ends is not prolonged. -/
theorem of_ended {run : Sim (Option (Except WorkerError Unit))}
    (ended : ∀ world, (run world).value.isSome) : Prolongs run run where
  ended := fun _ _ => rfl
  stopped := by
    intro world pending
    have ended := ended world
    rw [pending] at ended
    cases ended

/-- What is prolonged after a run prolongs both. -/
theorem after {β : Type} (first : Sim β) {short long : Sim (Option (Except WorkerError Unit))}
    (prolongs : Prolongs short long) :
    Prolongs (first >>= fun _ => short) (first >>= fun _ => long) where
  ended := by
    intro world ended
    rw [Sim.bind_eq_andThen, Sim.bind_eq_andThen, prolongs.ended _ ended]
  stopped := fun _ => prolongs.stopped _

end Prolongs

/-- The broker answers every request in the end, and lets the worker leave. -/
structure Broker.Visit.Answers (visit : Broker.Visit) : Prop where
  /-- Every request is answered. -/
  answer : ∀ place, (visit.answer place).delay.isSome
  /-- The worker can leave. -/
  leaving : visit.leaving.isSome

namespace Broker.Visit

variable {visit : Visit}

/-- A visit that can leave does so. -/
theorem Answers.leave_value (answers : visit.Answers) (result : Except WorkerError Unit)
    (world : World) : (visit.leave result world).value = some result := by
  obtain ⟨delay, leaving⟩ := Option.isSome_iff_exists.mp answers.leaving
  rw [visit.leave_value, leaving]
  rfl

/-- It ends at a request that is refused. -/
theorem Answers.endRefused_isSome (answers : visit.Answers) (request : Request) (reason : String)
    (world : World) : (visit.endRefused request reason world).value.isSome := by
  unfold endRefused
  cases Session.precedesChannel request with
  | true => rfl
  | false => exact Option.isSome_iff_exists.mpr ⟨_, answers.leave_value _ world⟩

/-- A loop that is watched for more turns. -/
theorem Answers.prolongs_loop (answers : visit.Answers) (consumer : Consumer) (turns more : Nat) :
    Prolongs (visit.feed.run consumer turns [] >>= visit.afterLoop)
      (visit.feed.run consumer (turns + (more + 1)) [] >>= visit.afterLoop) := by
  constructor
  · intro world ended
    rw [Sim.bind_eq_andThen, Sim.bind_eq_andThen]
    rw [Sim.bind_value] at ended
    have finished : (visit.feed.run consumer turns [] world).value.result.isSome := by
      unfold afterLoop at ended
      cases result : (visit.feed.run consumer turns [] world).value.result with
      | none => simp [result] at ended
      | some _ => rfl
    rw [Feed.run_add_of_ended finished]
  · intro world pending stopped
    rw [Sim.bind_value] at pending ⊢
    rw [Sim.bind_world] at stopped
    rw [Feed.run_add]
    unfold afterLoop at pending stopped ⊢
    cases result : (visit.feed.run consumer turns [] world).value.result with
    | some ended =>
      simp only [result] at pending
      rw [answers.leave_value] at pending
      cases pending
    | none =>
      simp only [result, Sim.pure_apply] at stopped ⊢
      rw [visit.feed.run_succ_of_stopped consumer more _ stopped]
      exact answers.leave_value _ _

/-- A set-up that is answered is prolonged as what comes after it is. -/
theorem Answers.prolongs_setUp (answers : visit.Answers)
    {short long : Sim (Option (Except WorkerError Unit))} (prolongs : Prolongs short long)
    (place : Nat) (requests : List Request) :
    Prolongs (visit.setUp short place requests) (visit.setUp long place requests) := by
  induction requests generalizing place with
  | nil => exact prolongs
  | cons request rest ih =>
    refine .after _ ?_
    unfold answered
    obtain ⟨delay, comes⟩ := Option.isSome_iff_exists.mp (answers.answer place)
    simp only [comes]
    refine .after _ ?_
    cases (visit.answer place).refusal with
    | some reason => exact .of_ended (answers.endRefused_isSome request reason)
    | none => exact .after _ (ih (place + 1))

/-- A visit that is watched for more turns of its loop. -/
theorem Answers.prolongs_run (answers : visit.Answers) (consumer : Consumer) (prefetch : UInt16)
    (turns more : Nat) :
    Prolongs (visit.run consumer prefetch turns)
      (visit.run consumer prefetch (turns + (more + 1))) :=
  answers.prolongs_setUp (.after _ (answers.prolongs_loop consumer turns more)) 0 _

end Broker.Visit

end EventLedger

import EventLedger.Proofs.Schedule
import EventLedger.Proofs.Visit

/-!
# The life of a worker

A worker visits its broker again and again. It stops only when it has been asked to or has been left
alone; after a stop it visits no more, takes one more item at most, and ends as the visit under way
ends. Over all visits, each delivery that is taken is settled once. What carries this is what one
stretch of a life can be, `Lived`.
-/
namespace EventLedger

open Consumer (Serving Handling Feed isTaking only_isTaking)
open Broker (Visit)

/-! ## Stretches of a life -/

/-- Whenever an attempt ends well, the worker shall not go on. -/
def EndsWellHalted (signal : Signal) (journal : Journal) : Prop :=
  ∀ before time after, journal = before ++ ⟨time, .attemptEnded (.ok ())⟩ :: after →
    signal.afterAll before ≠ .running

namespace EndsWellHalted

variable {signal : Signal} {first second : Journal}

/-- A journal in which no attempt ends well lives by the rule. -/
theorem of_not_mem (none : ∀ time, ⟨time, .attemptEnded (.ok ())⟩ ∉ first.marks) :
    EndsWellHalted signal first := by
  rintro before time after rfl
  have marked : ⟨time, .attemptEnded (.ok ())⟩ ∈
      Journal.marks (before ++ ⟨time, .attemptEnded (.ok ())⟩ :: after) := by
    simp [Journal.marks, isMark]
  exact absurd marked (none time)

/-- So does one in which no attempt ends at all. -/
theorem of_unmarked (unmarked : first.only isMark = []) : EndsWellHalted signal first := by
  apply of_not_mem
  simp [Journal.marks_eq_nil unmarked]

/-- So do two journals one after the other, if the second one does by what the first one has made of
the signal. -/
theorem append (one : EndsWellHalted signal first)
    (two : EndsWellHalted (signal.afterAll first) second) :
    EndsWellHalted signal (first ++ second) := by
  intro before time after split
  obtain ⟨middle, rfl, rest⟩ | ⟨middle, rfl, rest⟩ := List.append_eq_append_iff.mp split
  · rw [Signal.afterAll_append]
    exact two middle time after rest
  · cases middle with
    | nil =>
      have whole := two [] time after rest.symm
      simpa using whole
    | cons entry more =>
      obtain ⟨rfl, rfl⟩ := List.cons.inj rest
      exact one before time more rfl

end EndsWellHalted

/-- What a stretch of a life can be in which some items are taken. -/
structure Lived {α : Type} (consumer : Consumer) (world : World) (servings : List Serving)
    (run : Run α) : Prop where
  /-- It keeps time. -/
  keeps : KeepsTime world run
  /-- Each item is dealt with as a whole, and nothing else is taken. -/
  deeds : run.journal.deeds = servings.flatMap (Serving.deeds consumer)
  /-- At most one item is taken after a stop. -/
  few : AtMostAfterStop isTaking 1 world.signal run.journal
  /-- No attempt ends well before the worker shall not go on. -/
  wells : EndsWellHalted world.signal run.journal

namespace Lived

variable {α β : Type} {consumer : Consumer} {world : World} {servings more : List Serving}

/-- A plain run lives without any item. -/
theorem of_plain {run : Sim α} (plain : run.Plain) (world : World) :
    Lived consumer world [] (run world) where
  keeps := plain.orderly world
  deeds := plain.deeds world
  few := .of_length_le (by rw [Visited.only_isTaking_of_plain plain]; exact Nat.zero_le _)
  wells := .of_unmarked (plain.unmarked world)

/-- One stretch after another; if a stop has been asked for in the first, nothing is taken in the
second. -/
theorem andThen {first : Run α} {second : Run β} (before : Lived consumer world servings first)
    (after : Lived consumer first.world more second)
    (none : first.world.signal = .stopped → second.journal.only isTaking = []) :
    Lived consumer world (servings ++ more) (first.andThen second) := by
  have few := after.few
  have wells := after.wells
  rw [before.keeps.signal] at few wells none
  constructor
  · exact before.keeps.append after.keeps
  · rw [Run.andThen, Journal.deeds, Journal.only_append, List.flatMap_append, ← before.deeds,
      ← after.deeds]
    rfl
  · exact before.few.append few none
  · exact before.wells.append wells

/-- A stretch in which nothing is taken and nothing attempted may follow. -/
theorem andThen_plain {first : Run α} (before : Lived consumer world servings first)
    {run : Sim β} (plain : run.Plain) :
    Lived consumer world servings (first.andThen (run first.world)) := by
  have whole := before.andThen (.of_plain plain first.world) fun _ =>
    Visited.only_isTaking_of_plain plain first.world
  rwa [List.append_nil] at whole

/-- The value of a run does not matter for how it lives. -/
theorem replace {run : Run α} (lived : Lived consumer world servings run) (value : β) :
    Lived consumer world servings (⟨run.journal, run.world, value⟩ : Run β) :=
  ⟨lived.keeps.replace value, lived.deeds, lived.few, lived.wells⟩

/-- The beginning of an attempt. -/
theorem started (world : World) : Lived consumer world [] (Sim.happen .attemptStarted world) where
  keeps := (.happen nofun : (Sim.happen .attemptStarted).Orderly) world
  deeds := rfl
  few := .of_length_le (Nat.zero_le _)
  wells := .of_not_mem (by simp [Sim.happen, Journal.marks, isMark])

/-- The end of an attempt, if the worker shall not go on unless the attempt has failed. -/
theorem ended {result : Except WorkerError Unit}
    (halted : result = .ok () → world.signal ≠ .running) :
    Lived consumer world [] (Sim.happen (.attemptEnded result) world) where
  keeps := (.happen nofun : (Sim.happen (.attemptEnded result)).Orderly) world
  deeds := rfl
  few := .of_length_le (Nat.zero_le _)
  wells := by
    intro before time after split
    cases before with
    | nil =>
      cases split
      exact halted rfl
    | cons entry more =>
      have rest := (List.cons.inj split).2
      simp at rest

/-- An attempt that does not end is not noted. -/
theorem noted {value : Option (Except WorkerError Unit)}
    (halted : value = some (.ok ()) → world.signal ≠ .running) :
    Lived consumer world [] (Supervision.noteEnd value world) := by
  cases value with
  | none => exact .of_plain (.pure none) world
  | some result =>
    have ended : Lived consumer world [] _ := .ended fun ok => halted (congrArg some ok)
    exact ended.andThen_plain (.pure (some result))

/-- A visit lives with the items that it takes. -/
theorem of_visited {feed : Feed} {run : Run (Option (Except WorkerError Unit))}
    (visited : Visited consumer feed world servings run) : Lived consumer world servings run where
  keeps := visited.keeps
  deeds := visited.deeds
  few := visited.few
  wells := .of_unmarked visited.unmarked

end Lived

namespace Supervision

variable {consumer : Consumer} {prefetch : UInt16} {turns : Nat}

/-- Noting the end of an attempt changes nothing about how it has ended. -/
theorem noteEnd_value (value : Option (Except WorkerError Unit)) (world : World) :
    (noteEnd value world).value = value := by
  cases value <;> rfl

/-- Nor does it change the world. -/
theorem noteEnd_world (value : Option (Except WorkerError Unit)) (world : World) :
    (noteEnd value world).world = world := by
  cases value <;> rfl

/-- An attempt at a visit takes what the broker hands out, and it does not end well before the
worker shall not go on. -/
theorem lived_watchAttempt (consumer : Consumer) (prefetch : UInt16) (turns : Nat) (visit : Visit)
    (world : World) : ∃ servings, visit.feed.HandsOut [] servings ∧
      let tried := watchAttempt (Visit.run consumer prefetch turns) visit world
      Lived consumer world servings tried ∧
        (tried.value = some (.ok ()) → tried.world.signal ≠ .running) := by
  obtain ⟨servings, visited⟩ :=
    Visit.visited_run consumer prefetch turns visit (Sim.happen .attemptStarted world).world
  refine ⟨servings, visited.handed, ?_⟩
  have lived := Lived.of_visited visited
  have well := visited.well
  have declines := visited.declines
  rw [watchAttempt, Sim.bind_eq_andThen, Sim.bind_eq_andThen]
  generalize visit.run consumer prefetch turns (Sim.happen .attemptStarted world).world = run
    at lived well declines ⊢
  have noted : Lived consumer run.world [] (noteEnd run.value run.world) := .noted well
  have silent : (noteEnd run.value run.world).journal.only isTaking = [] := by
    cases run.value <;> rfl
  have whole := lived.andThen noted fun _ => silent
  refine ⟨?_, ?_⟩
  · rw [← List.nil_append servings, ← List.append_nil servings]
    refine (Lived.started world).andThen whole fun stopped => ?_
    rw [Run.andThen, Journal.only_append, declines stopped, silent]
    rfl
  · intro ended
    rw [Run.andThen, Run.andThen, noteEnd_world]
    exact well ((noteEnd_value _ _).symm.trans ended)

/-! ## Lives -/

/-- What a life can be in which visits are made from the one of a number on. -/
structure Life (consumer : Consumer) (visits : Nat → Attempt Visit) (made : Nat) (world : World)
    (rounds : List Round) (stays : List (List Serving)) (run : Run (Option SupervisionEnd)) :
    Prop where
  /-- All that is taken is what is taken in the visits. -/
  lived : Lived consumer world stays.flatten run
  /-- There is one visit in each round. -/
  each : stays.length = rounds.length
  /-- Every visit takes what is handed out to it. -/
  handed : ∀ number servings, stays[number]? = some servings →
    (visits (made + number)).session.feed.HandsOut [] servings
  /-- Nothing is taken if a stop has been asked for before. -/
  declines : world.signal = .stopped → run.journal.only isTaking = []
  /-- It is not completed before the worker shall not go on. -/
  halts : run.value = some .completed → ∃ before message begun,
    run.journal = before ++ (announce message .completed begun).journal ∧
      world.signal.afterAll before ≠ .running

namespace Life

variable {visits : Nat → Attempt Visit} {made : Nat} {world : World}
  {run : Run (Option SupervisionEnd)} {round : Round} {servings : List Serving}

/-- No visit is made. -/
theorem of_plain {idle : Sim (Option SupervisionEnd)} (plain : idle.Plain)
    (incomplete : (idle world).value ≠ some .completed) :
    Life consumer visits made world [] [] (idle world) where
  lived := .of_plain plain world
  each := rfl
  handed := nofun
  declines := fun _ => Visited.only_isTaking_of_plain plain world
  halts := fun completed => absurd completed incomplete

/-- One visit is made, and it is the last one. -/
theorem last (lived : Lived consumer world servings run)
    (handed : (visits made).session.feed.HandsOut [] servings)
    (goesOn : world.signal ≠ .stopped)
    (halts : run.value = some .completed → ∃ before message begun,
      run.journal = before ++ (announce message .completed begun).journal ∧
        world.signal.afterAll before ≠ .running) :
    Life consumer visits made world [round] [servings] run where
  lived := by simpa using lived
  each := rfl
  handed := by
    intro number other is
    cases number with
    | zero =>
      cases is
      exact handed
    | succ number => cases is
  declines := fun stopped => absurd stopped goesOn
  halts := halts

/-- One visit is made before others. -/
theorem cons {β : Type} {first : Run β} {rounds : List Round} {stays : List (List Serving)}
    (lived : Lived consumer world servings first)
    (handed : (visits made).session.feed.HandsOut [] servings)
    (goesOn : world.signal ≠ .stopped)
    (later : Life consumer visits (made + 1) first.world rounds stays run) :
    Life consumer visits made world (round :: rounds) (servings :: stays) (first.andThen run) where
  lived := lived.andThen later.lived later.declines
  each := congrArg (· + 1) later.each
  handed := by
    intro number other is
    cases number with
    | zero =>
      cases is
      exact handed
    | succ number =>
      have handed := later.handed number other is
      rwa [Nat.add_assoc, Nat.add_comm 1 number] at handed
  declines := fun stopped => absurd stopped goesOn
  halts := by
    intro completed
    obtain ⟨before, message, begun, journal, halted⟩ := later.halts completed
    refine ⟨first.journal ++ before, message, begun, ?_, ?_⟩
    · rw [Run.andThen, journal, List.append_assoc]
    · rwa [Signal.afterAll_append, ← lived.keeps.signal]

end Life

/-- Every course of visits is such a life. -/
theorem Coursed.life {retryDelay : Nat} {visits : Nat → Attempt Visit} {watched made : Nat}
    {world : World} {rounds : List Round} {run : Run (Option SupervisionEnd)}
    (coursed : Coursed retryDelay (Visit.run consumer prefetch turns) visits watched made world
      rounds run) : ∃ stays, Life consumer visits made world rounds stays run := by
  induction coursed with
  | declined stopped => exact ⟨[], .of_plain (plain_announce _ _) nofun⟩
  | unwatched goesOn => exact ⟨[], .of_plain (.pure none) nofun⟩
  | @unfinished _ made world _ goesOn is unended =>
    subst is
    obtain ⟨servings, handed, lived, _⟩ :=
      lived_watchAttempt consumer prefetch turns (visits made).session world
    exact ⟨[servings], .last (lived.replace none) handed goesOn nofun⟩
  | @finished _ made world _ goesOn is well =>
    subst is
    obtain ⟨servings, handed, lived, halted⟩ :=
      lived_watchAttempt consumer prefetch turns (visits made).session world
    refine ⟨[servings], .last (lived.andThen_plain (plain_announce _ _)) handed goesOn ?_⟩
    exact fun _ => ⟨_, _, _, rfl, lived.keeps.signal ▸ halted well⟩
  | @cancelled _ made world _ error _ goesOn is failed paused noticed =>
    subst is
    subst paused
    obtain ⟨servings, handed, lived, _⟩ :=
      lived_watchAttempt consumer prefetch turns (visits made).session world
    have waited := lived.andThen_plain (plain_pause retryDelay error (visits made).tie)
    rw [← Run.andThen_assoc]
    exact ⟨[servings], .last (waited.andThen_plain (plain_announce _ _)) handed goesOn nofun⟩
  | @retried _ made world _ error _ _ _ goesOn is failed paused unnoticed later ih =>
    subst is
    subst paused
    obtain ⟨servings, handed, lived, _⟩ :=
      lived_watchAttempt consumer prefetch turns (visits made).session world
    have waited := lived.andThen_plain (plain_pause retryDelay error (visits made).tie)
    obtain ⟨stays, life⟩ := ih
    rw [← Run.andThen_assoc]
    exact ⟨servings :: stays, .cons waited handed goesOn life⟩

/-! ## Longer courses -/

variable {α : Type} {short long : α → Sim (Option (Except WorkerError Unit))}

/-- An attempt is prolonged as what is attempted is. -/
theorem prolongs_watchAttempt {session : α} (prolongs : Prolongs (short session) (long session)) :
    Prolongs (watchAttempt short session) (watchAttempt long session) := by
  refine .after _ ⟨fun world ended => ?_, fun world pending stopped => ?_⟩
  · rw [Sim.bind_value, noteEnd_value] at ended
    rw [Sim.bind_eq_andThen, Sim.bind_eq_andThen, prolongs.ended world ended]
  · rw [Sim.bind_value, noteEnd_value] at pending ⊢
    rw [Sim.bind_world, noteEnd_world] at stopped
    exact prolongs.stopped world pending stopped

/-- If a stop has been asked for while an attempt is under way, supervision is completed when that
attempt has been watched for longer. -/
theorem Coursed.completed_of_prolongs {retryDelay : Nat} {attempts : Nat → Attempt α}
    {watched made : Nat} {world : World} {rounds more : List Round}
    {run longer : Run (Option SupervisionEnd)}
    (prolongs : ∀ number,
      Prolongs (short (attempts number).session) (long (attempts number).session))
    (coursed : Coursed retryDelay short attempts watched made world rounds run)
    (pending : run.value = none) (stopped : run.world.signal = .stopped)
    (goesOnLonger : Coursed retryDelay long attempts watched made world more longer) :
    longer.value = some .completed := by
  induction coursed generalizing more longer with
  | declined _ => cases pending
  | unwatched goesOn => exact absurd stopped goesOn
  | @unfinished _ made world _ goesOn is unended =>
    subst is
    have well := (prolongs_watchAttempt (prolongs made)).stopped world unended stopped
    cases goesOnLonger with
    | declined before => exact absurd before goesOn
    | unfinished _ is still =>
      subst is
      rw [well] at still
      cases still
    | finished _ is _ => rfl
    | cancelled _ is failed _ _ | retried _ is failed _ _ _ =>
      subst is
      rw [well] at failed
      cases failed
  | finished _ _ _ => cases pending
  | cancelled _ _ _ _ _ => cases pending
  | @retried _ made world _ _ _ _ _ goesOn is failed paused unnoticed later ih =>
    subst is
    subst paused
    have same := (prolongs_watchAttempt (prolongs made)).ended world (by rw [failed]; rfl)
    cases goesOnLonger with
    | declined before => exact absurd before goesOn
    | unfinished _ is still =>
      rw [← is, same, failed] at still
      cases still
    | finished _ is well =>
      rw [← is, same, failed] at well
      cases well
    | cancelled _ is again paused noticed =>
      rw [← is, same] at again paused
      rw [failed] at again
      cases again
      rw [← paused, unnoticed] at noticed
      cases noticed
    | retried _ is again paused _ others =>
      rw [← is, same] at again paused
      rw [failed] at again
      cases again
      subst paused
      have completed := ih pending stopped others
      exact completed

/-! ## Stops -/

/-- The beginnings of attempts, with their times. -/
def starts (journal : Journal) : Journal := journal.filter fun entry => isStart entry.what

/-- The starts in one journal come before those in a later one. -/
theorem starts_append (first second : Journal) :
    starts (first ++ second) = starts first ++ starts second := List.filter_append ..

/-- Where no attempt begins, there are none. -/
theorem starts_eq_nil {journal : Journal} (none : journal.only isStart = []) :
    starts journal = [] := by
  have mapped : journal.only isStart = (starts journal).map Entry.what := List.filter_map ..
  rw [none] at mapped
  exact List.map_eq_nil_iff.mp mapped.symm

/-- The marks have all starts. -/
theorem starts_marks (journal : Journal) : starts journal.marks = starts journal := by
  rw [starts, starts, Journal.marks, List.filter_filter]
  congr 1
  funext entry
  cases entry.what <;> rfl

/-- Rounds start where they do. -/
theorem starts_rounds (rounds : List Round) :
    starts (rounds.flatMap Round.marks) =
      rounds.map fun round => ⟨round.start, .attemptStarted⟩ := by
  induction rounds with
  | nil => rfl
  | cons round rest ih =>
    rw [List.flatMap_cons, starts_append, ih, List.map_cons]
    cases ending : round.ending <;> simp [starts, Round.marks, isStart, ending]

/-- An attempt that began at a time is under way at the end of a journal. -/
def IsUnderWay (journal : Journal) (start : Nat) : Prop :=
  journal.marks.getLast? = some ⟨start, .attemptStarted⟩

/-- What ends with the beginning of an attempt goes on with no other one. -/
theorem isUnderWay_of_getLast? {before more : Journal} {start : Nat}
    (last : (before.marks ++ more).getLast? = some ⟨start, .attemptStarted⟩)
    (none : starts more = []) : IsUnderWay before start := by
  rw [List.getLast?_append] at last
  cases end? : more.getLast? with
  | none =>
    rw [end?, Option.none_or] at last
    exact last
  | some entry =>
    rw [end?, Option.some_or, Option.some.injEq] at last
    subst last
    have among := List.mem_of_getLast? end?
    have beginning : ⟨start, .attemptStarted⟩ ∈ starts more := List.mem_filter.mpr ⟨among, rfl⟩
    rw [none] at beginning
    cases beginning

/-- A stop is asked for in a journal, while the worker shall go on. -/
structure StopsAt (signal : Signal) (journal before after : Journal) : Prop where
  /-- The stop comes between two parts of the journal. -/
  split : ∃ time source, journal = before ++ ⟨time, .signalled .stop source⟩ :: after
  /-- The worker shall go on until then. -/
  running : signal.afterAll before = .running

namespace StopsAt

variable {retryDelay watched : Nat} {world : World} {rounds : List Round}
  {run : Run (Option SupervisionEnd)} {before after : Journal}

/-- The marks of a course that is stopped are those before the stop and those after it. -/
theorem marks (stops : StopsAt world.signal run.journal before after) :
    run.journal.marks = before.marks ++ after.marks := by
  obtain ⟨time, source, split⟩ := stops.split
  rw [split, Journal.marks_append]
  simp [Journal.marks, isMark]

/-- At the end the stop has been asked for. -/
theorem signal (stops : StopsAt world.signal run.journal before after)
    (scheduled : Scheduled retryDelay watched world rounds run) :
    run.world.signal = .stopped := by
  obtain ⟨time, source, split⟩ := stops.split
  have stopped : Signal.running.afterAll [⟨time, .signalled .stop source⟩] = .stopped := rfl
  rw [scheduled.keeps.signal, split, Signal.afterAll_append, stops.running,
    ← List.singleton_append, Signal.afterAll_append, stopped, Signal.afterAll_stopped]

/-- No attempt begins after it. -/
theorem starts_after (stops : StopsAt world.signal run.journal before after)
    (scheduled : Scheduled retryDelay watched world rounds run) : starts after = [] := by
  obtain ⟨time, source, split⟩ := stops.split
  have stopped : world.signal.afterAll (before ++ [⟨time, .signalled .stop source⟩]) =
      .stopped := by
    rw [Signal.afterAll_append, stops.running]
    rfl
  have few := scheduled.unstopped (before ++ [⟨time, .signalled .stop source⟩]) after
    (by rw [split, List.append_assoc]; rfl) stopped
  exact starts_eq_nil (List.length_eq_zero_iff.mp (Nat.le_zero.mp few))

/-- The attempt that is under way then is the last one. -/
theorem last_of_isUnderWay (stops : StopsAt world.signal run.journal before after)
    (scheduled : Scheduled retryDelay watched world rounds run) {start : Nat}
    (underWay : IsUnderWay before start) :
    ∃ last, rounds.getLast? = some last ∧ last.start = start := by
  have whole : starts before = rounds.map fun round => ⟨round.start, .attemptStarted⟩ := by
    rw [← starts_rounds, ← scheduled.marks, stops.marks, starts_append, starts_marks, starts_marks,
      stops.starts_after scheduled, List.append_nil]
  obtain ⟨earlier, ends⟩ := List.getLast?_eq_some_iff.mp underWay
  have last : (starts before).getLast? = some ⟨start, .attemptStarted⟩ := by
    rw [← starts_marks, ends, starts_append]
    exact List.getLast?_concat
  rw [whole, List.getLast?_map, Option.map_eq_some_iff] at last
  obtain ⟨round, is, same⟩ := last
  exact ⟨round, is, congrArg Entry.time same⟩

/-- After a stop, supervision ends as the last attempt does. -/
theorem ends_as_last (stops : StopsAt world.signal run.journal before after)
    (scheduled : Scheduled retryDelay watched world rounds run) {last : Round}
    (is : rounds.getLast? = some last) :
    (run.value = some .completed ↔ ∃ finish, last.SucceedsAt finish) ∧
      (run.value = some .cancelled ↔ ∃ finish, last.FailsAt finish) := by
  have only {round : Round} (also : rounds.getLast? = some round) : round = last :=
    Option.some.inj (also.symm.trans is)
  refine ⟨?_, ?_, ?_⟩
  · rw [scheduled.completes]
    constructor
    · rintro ⟨round, finish, also, well⟩
      exact ⟨finish, only also ▸ well⟩
    · rintro ⟨finish, well⟩
      exact ⟨last, finish, is, well⟩
  · intro cancelled
    obtain ⟨rfl, _⟩ | ⟨round, finish, _, also, fails, _⟩ := scheduled.cancels cancelled
    · cases is
    · exact ⟨finish, only also ▸ fails⟩
  · rintro ⟨finish, error, ending⟩
    cases value : run.value with
    | none =>
      obtain ⟨round, also, unended⟩ | ⟨_, unstopped, _⟩ := scheduled.pauses value
      · rw [only also, ending] at unended
        cases unended
      · exact absurd (stops.signal scheduled) unstopped
    | some ended =>
      cases ended with
      | cancelled => rfl
      | completed =>
        obtain ⟨round, _, also, well⟩ := scheduled.completes.mp value
        rw [only also, Round.SucceedsAt, ending] at well
        cases well

/-- No attempt has ended well before it. -/
theorem not_ended_well (stops : StopsAt world.signal run.journal before after)
    (wells : EndsWellHalted world.signal run.journal) (finish : Nat) :
    ⟨finish, .attemptEnded (.ok ())⟩ ∉ before.marks := by
  intro among
  obtain ⟨earlier, later, whole⟩ := List.append_of_mem (List.mem_of_mem_filter among)
  obtain ⟨time, source, split⟩ := stops.split
  have halted := wells earlier finish (later ++ ⟨time, .signalled .stop source⟩ :: after)
    (by rw [split, whole, List.append_assoc]; rfl)
  have never := Signal.afterAll_append_ne_running halted
    (⟨finish, .attemptEnded (.ok ())⟩ :: later)
  rw [← whole] at never
  exact never stops.running

/-- If no attempt is under way when a stop is asked for, supervision is cancelled. -/
theorem cancelled_of_idle (stops : StopsAt world.signal run.journal before after)
    (scheduled : Scheduled retryDelay watched world rounds run)
    (wells : EndsWellHalted world.signal run.journal)
    (idle : ∀ start, ¬IsUnderWay before start) : run.value = some .cancelled := by
  have none : starts after.marks = [] := by rw [starts_marks, stops.starts_after scheduled]
  have marks : before.marks ++ after.marks = rounds.flatMap Round.marks := by
    rw [← stops.marks, scheduled.marks]
  have marks_of {last : Round} (is : rounds.getLast? = some last) :
      ∃ earlier, before.marks ++ after.marks = earlier ++ last.marks := by
    obtain ⟨earlier, rfl⟩ := List.getLast?_eq_some_iff.mp is
    exact ⟨earlier.flatMap Round.marks, by rw [marks, List.flatMap_append, List.flatMap_singleton]⟩
  cases value : run.value with
  | none =>
    obtain ⟨last, is, unended⟩ | ⟨_, unstopped, _⟩ := scheduled.pauses value
    · obtain ⟨earlier, whole⟩ := marks_of is
      have begun : (before.marks ++ after.marks).getLast? =
          some ⟨last.start, .attemptStarted⟩ := by
        rw [whole, Round.marks, unended]
        exact List.getLast?_concat
      exact absurd (isUnderWay_of_getLast? begun none) (idle last.start)
    · exact absurd (stops.signal scheduled) unstopped
  | some ended =>
    cases ended with
    | cancelled => rfl
    | completed =>
      obtain ⟨last, finish, is, well⟩ := scheduled.completes.mp value
      obtain ⟨earlier, whole⟩ := marks_of is
      rw [Round.marks, well] at whole
      have halted : ⟨finish, .attemptEnded (.ok ())⟩ ∉ before.marks :=
        stops.not_ended_well wells finish
      obtain nothing | ⟨more, entry, ends⟩ := List.eq_nil_or_concat after.marks
      · rw [nothing, List.append_nil] at whole
        exact absurd (by simp [whole]) halted
      · rw [ends, List.concat_eq_append] at whole none
        have split : (before.marks ++ more) ++ [entry] =
            (earlier ++ [⟨last.start, .attemptStarted⟩]) ++ [⟨finish, .attemptEnded (.ok ())⟩] := by
          simpa using whole
        have begun : before.marks ++ more = _ := (List.append_inj' split rfl).1
        have unbegun : starts more = [] := by
          rw [starts_append, List.append_eq_nil_iff] at none
          exact none.1
        exact absurd (isUnderWay_of_getLast? (by rw [begun]; exact List.getLast?_concat) unbegun)
          (idle last.start)

end StopsAt

/-! ## Every life -/

/-- How a worker lives that visits its broker again and again, as far as it is watched. -/
structure LivesOnRequest (consumer : Consumer) (prefetch : UInt16) (turns retryDelay watched : Nat)
    (visits : Nat → Attempt Visit) (world : World) (rounds : List Round)
    (stays : List (List Serving)) (run : Run (Option SupervisionEnd)) : Prop where
  /-- Each visit after the first begins so long after the failure of the one before it, and none
  begins after a stop has been asked for. -/
  scheduled : Scheduled retryDelay watched world rounds run
  /-- As long as the worker shall go on, it does not end. -/
  requested : ∀ ending, run.value = some ending → ∃ before message begun,
    run.journal = before ++ (announce message ending begun).journal ∧
      world.signal.afterAll before ≠ .running
  /-- After a stop has been asked for, at any moment, at most one more item is taken. -/
  few : AtMostAfterStop isTaking 1 world.signal run.journal
  /-- If a visit is under way when a stop is asked for, it is the last one, and the worker ends as
  that visit does. -/
  underWay : ∀ before after start, StopsAt world.signal run.journal before after →
    IsUnderWay before start → ∃ last, rounds.getLast? = some last ∧ last.start = start ∧
      (run.value = some .completed ↔ ∃ finish, last.SucceedsAt finish) ∧
      (run.value = some .cancelled ↔ ∃ finish, last.FailsAt finish)
  /-- If no visit is under way then, the worker is cancelled. -/
  idle : ∀ before after, StopsAt world.signal run.journal before after →
    (∀ start, ¬IsUnderWay before start) → run.value = some .cancelled
  /-- A worker whose broker answers in the end is completed after a stop, if it is watched for
  longer and has not ended by then. -/
  returns : (∀ number, (visits number).session.Answers) → run.value = none →
    run.world.signal = .stopped → ∀ more,
      (course retryDelay (Visit.run consumer prefetch (turns + (more + 1))) visits watched 0
        world).value = some .completed
  /-- Every visit takes what is handed out to it. -/
  handed : stays.length = rounds.length ∧ ∀ number servings, stays[number]? = some servings →
    (visits number).session.feed.HandsOut [] servings
  /-- Each item is dealt with as a whole, and nothing else is taken. -/
  deeds : run.journal.deeds = stays.flatten.flatMap (Serving.deeds consumer)
  /-- Each message that is taken is settled once, and nothing else is settled. -/
  settled : run.journal.settlements = (stays.flatten.filterMap Serving.handling?).map
    fun handling => (handling.delivery.tag, (handling.outcome consumer).decision)
  /-- It is what the supervisor does with these visits. -/
  follows : Follows retryDelay
    (firstAttempts (Visit.run consumer prefetch turns) visits watched 0) world run

/-- What is settled is what is told the queues about messages that have been taken. -/
theorem settlements_of_deeds {journal : Journal} {servings : List Serving}
    (deeds : journal.deeds = servings.flatMap (Serving.deeds consumer)) :
    journal.settlements = (servings.filterMap Serving.handling?).map
      fun handling => (handling.delivery.tag, (handling.outcome consumer).decision) := by
  rw [Journal.settlements_eq, deeds]
  clear deeds
  induction servings with
  | nil => rfl
  | cons serving rest ih =>
    rw [List.flatMap_cons, List.filterMap_append, ih, List.filterMap_cons]
    cases message : serving.handling? with
    | some handling =>
      rw [Serving.settlements_deeds message]
      rfl
    | none =>
      rw [Serving.deeds, message]
      rfl

/-- A worker lives until it is asked to stop or left alone, and then ends as the visit under way
does; each delivery that it takes in its life is settled once. -/
theorem course_livesOnRequest (consumer : Consumer) (prefetch : UInt16)
    (turns retryDelay watched : Nat) (visits : Nat → Attempt Visit) (world : World) :
    ∃ rounds stays, LivesOnRequest consumer prefetch turns retryDelay watched visits world rounds
      stays (course retryDelay (Visit.run consumer prefetch turns) visits watched 0 world) := by
  obtain ⟨rounds, coursed⟩ := coursed_course (Visit.run consumer prefetch turns) retryDelay visits
    watched 0 world
  have scheduled := coursed.scheduled (Visit.orderly_run consumer prefetch turns)
    (Visit.unmarked_run consumer prefetch turns)
  obtain ⟨stays, life⟩ := coursed.life
  refine ⟨rounds, stays, scheduled, ?_, life.lived.few, ?_, ?_, ?_, ⟨life.each, ?_⟩,
    life.lived.deeds, settlements_of_deeds life.lived.deeds, coursed.follows⟩
  · intro ending ended
    cases ending with
    | completed => exact life.halts ended
    | cancelled => exact scheduled.halts ended
  · intro before after start stops underWay
    obtain ⟨last, is, begun⟩ := stops.last_of_isUnderWay scheduled underWay
    exact ⟨last, is, begun, stops.ends_as_last scheduled is⟩
  · intro before after stops idle
    exact stops.cancelled_of_idle scheduled life.lived.wells idle
  · intro answers pending stopped more
    obtain ⟨longer, goesOn⟩ := coursed_course (Visit.run consumer prefetch (turns + (more + 1)))
      retryDelay visits watched 0 world
    exact coursed.completed_of_prolongs
      (fun number => (answers number).prolongs_run consumer prefetch turns more) pending stopped
      goesOn
  · simpa using life.handed

end Supervision

end EventLedger

import Mathlib.Data.List.Chain
import EventLedger.Proofs.Course
import EventLedger.Proofs.Delay

/-!
# The schedule of attempts

A supervisor makes one attempt after another. Each one after the first begins a fixed delay after
the failure of the one before it; none begins once a stop has been asked for; and supervision ends
at once when an attempt ends well or when the worker shall not go on. What carries this is what one
attempt can be, `Attempted`, and that a course is an attempt, a delay and a course.
-/
namespace EventLedger

/-! ## Attempts and pauses -/

/-- A round is all that has been attempted in a run. -/
structure Attempted {β : Type} (world : World) (round : Round) (run : Run β) : Prop where
  /-- It keeps time. -/
  keeps : KeepsTime world run
  /-- Its beginning and its end are noted. -/
  marks : run.journal.marks = round.marks
  /-- It begins now. -/
  start : round.start = world.now
  /-- It does not end before it begins. -/
  forward : ∀ ending, round.ending = some ending → round.start ≤ ending.1
  /-- It does not begin after a stop has been asked for. -/
  unstopped : AtMostAfterStop isStart 0 world.signal run.journal

/-- Something else may follow a round. -/
theorem Attempted.append {β γ : Type} {world : World} {round : Round} {run : Run β}
    (attempted : Attempted world round run) {later : Run γ} (keeps : KeepsTime run.world later)
    (unmarked : later.journal.only isMark = []) :
    Attempted world round (run.andThen later) where
  keeps := attempted.keeps.append keeps
  marks := by
    rw [Run.andThen, Journal.marks_append, attempted.marks, Journal.marks_eq_nil unmarked,
      List.append_nil]
  start := attempted.start
  forward := attempted.forward
  unstopped := by
    have none : later.journal.only isStart = [] := by
      rw [Journal.only_isStart, unmarked]
      rfl
    refine attempted.unstopped.append (.of_length_le ?_) fun _ => none
    rw [none]
    exact Nat.le_refl _

namespace Supervision

variable {α : Type} {runOnce : α → Sim (Option (Except WorkerError Unit))}

/-- An attempt is as orderly when it is watched. -/
theorem orderly_watchAttempt (orderly : ∀ session, (runOnce session).Orderly) (session : α) :
    (watchAttempt runOnce session).Orderly := by
  refine .bind (.happen nofun) fun _ => .bind (orderly session) fun value => ?_
  cases value with
  | none => exact .pure none
  | some result => exact .bind (.happen nofun) fun _ => .pure _

/-- An attempt is a round, if no stop has been asked for. -/
theorem attempted_watchAttempt (orderly : ∀ session, (runOnce session).Orderly)
    (unmarked : ∀ session world, (runOnce session world).journal.only isMark = [])
    (session : α) {world : World} (goesOn : world.signal ≠ .stopped) :
    let tried := watchAttempt runOnce session world
    Attempted world (roundOf world tried) tried := by
  have keeps := orderly_watchAttempt orderly session world
  have none := unmarked session world
  rw [watchAttempt_apply] at keeps ⊢
  generalize runOnce session world = tried at keeps none ⊢
  obtain ⟨happened, after, value⟩ := tried
  simp only at keeps none ⊢
  have forward := keeps.forward
  refine ⟨keeps, ?_, rfl, fun ending ends => ?_, .of_cons goesOn ?_⟩
  · rw [← List.singleton_append, Journal.marks_append, Journal.marks_append,
      Journal.marks_eq_nil none]
    cases value <;> rfl
  · obtain ⟨result, _, rfl⟩ := Option.map_eq_some_iff.mp ends
    exact forward
  · rw [Journal.only_append, Journal.only_isStart, none]
    cases value <;> exact Nat.le_refl _

/-- Reporting a failure takes no time. -/
theorem reportFailure_now (retryDelay : Nat) (error : WorkerError) (world : World) :
    (reportFailure retryDelay error world).world.now = world.now := by
  rw [reportFailure, Sim.bind_world, Sim.happen_now, Sim.log, Sim.happen_now]

/-- A pause is a delay, since reporting takes no time. -/
theorem delayed_pause (retryDelay : Nat) (error : WorkerError) (tie : Sim.Tie) (world : World) :
    Delayed retryDelay world (pause retryDelay error tie world) := by
  have keeps := (plain_reportFailure retryDelay error).orderly world
  have now := reportFailure_now retryDelay error world
  rw [pause, Sim.bind_eq_andThen]
  generalize reportFailure retryDelay error world = reported at keeps now ⊢
  have delayed := delayed_waitUnlessSignalled retryDelay tie reported.world
  generalize Sim.waitUnlessSignalled retryDelay tie reported.world = waited at delayed ⊢
  constructor
  · exact keeps.append delayed.keeps
  · exact delayed.halts
  · exact fun unnoticed => now ▸ delayed.lasts unnoticed
  · exact fun halted => now ▸ delayed.turned_after keeps halted
  · exact delayed.ahead
  · intro time comes early
    have later := Consumer.now_le_signalTime? comes
    exact delayed.noticed_after keeps (by omega) comes (by omega)

/-- How a course of supervision goes that has been watched for a number of attempts. -/
structure Scheduled (retryDelay watched : Nat) (world : World) (rounds : List Round)
    (run : Run (Option SupervisionEnd)) : Prop where
  /-- It keeps time. -/
  keeps : KeepsTime world run
  /-- Attempts begin and end one after the other. -/
  marks : run.journal.marks = rounds.flatMap Round.marks
  /-- None is made that is not watched. -/
  watch : rounds.length ≤ watched
  /-- The first one begins at once. -/
  first : ∀ round, rounds.head? = some round → round.start = world.now
  /-- None ends before it begins. -/
  forward : ∀ round ∈ rounds, world.now ≤ round.start ∧
    ∀ ending, round.ending = some ending → round.start ≤ ending.1
  /-- Each later one begins so long after the failure of the one before it. -/
  spaced : rounds.IsChain fun earlier later =>
    ∃ finish, earlier.FailsAt finish ∧ later.start = finish + retryDelay
  /-- None begins after a stop has been asked for. -/
  unstopped : AtMostAfterStop isStart 0 world.signal run.journal
  /-- None begins at the time of a planned stop or later. -/
  early : ∀ time, world.signal = .running → world.planned = some (time, .stop) →
    world.now < time → ∀ round ∈ rounds, round.start < time
  /-- Supervision that begins after a stop is cancelled at once. -/
  declines : world.signal = .stopped →
    rounds = [] ∧ run.value = some .cancelled ∧ run.world.now = world.now
  /-- It is completed if the last attempt ends well, and only then. -/
  completes : run.value = some .completed ↔
    ∃ round finish, rounds.getLast? = some round ∧ round.SucceedsAt finish
  /-- It is completed at once. -/
  atOnce : ∀ round finish, rounds.getLast? = some round → round.SucceedsAt finish →
    run.world.now = finish
  /-- It is cancelled as soon as it is seen, with no attempt under way, that the worker shall not go
  on: before the first attempt, or after the last one has failed and no later than the delay. -/
  cancels : run.value = some .cancelled →
    (rounds = [] ∧ world.signal = .stopped ∧ run.world.now = world.now) ∨
    ∃ round finish time, rounds.getLast? = some round ∧ round.FailsAt finish ∧
      world.turnsAt? run.journal = some time ∧ time ≤ finish + retryDelay ∧
      run.world.now = max finish time
  /-- It is not cancelled before the worker shall not go on. -/
  halts : run.value = some .cancelled → ∃ before message begun,
    run.journal = before ++ (announce message .cancelled begun).journal ∧
      world.signal.afterAll before ≠ .running
  /-- It has not ended only if an attempt has not, or if all watched attempts have been made, no
  stop has been asked for, and the next attempt would begin now. -/
  pauses : run.value = none →
    (∃ round, rounds.getLast? = some round ∧ round.ending = none) ∨
    (rounds.length = watched ∧ run.world.signal ≠ .stopped ∧
      (rounds = [] ∧ run.world.now = world.now ∨ ∃ round finish,
        rounds.getLast? = some round ∧ round.FailsAt finish ∧
          run.world.now = finish + retryDelay))
  /-- Once the time of a planned stop has passed, supervision has ended, unless an attempt has
  not. -/
  returns : ∀ time, world.signal = .running → world.planned = some (time, .stop) →
    world.now < time → time ≤ world.now + watched * retryDelay → run.value = none →
    ∃ round, rounds.getLast? = some round ∧ round.ending = none
  /-- An attempt that fails is the last one if the signal has come or comes in the delay after it,
  be it that a stop is asked for or that nobody is left who could ask. -/
  noticed : ∀ time, world.signalTime? = some time → 0 < retryDelay →
    ∀ round ∈ rounds, ∀ finish, round.FailsAt finish → time < finish + retryDelay →
      rounds.getLast? = some round ∧ run.value = some .cancelled

/-- Announcing an end takes no time. -/
theorem announce_now (message : String) (ending : SupervisionEnd) (world : World) :
    (announce message ending world).world.now = world.now := Sim.happen_now _ _

namespace Scheduled

variable {retryDelay watched : Nat} {world : World} {run : Run (Option SupervisionEnd)}

/-- No attempt is made after a stop. -/
theorem declined (stopped : world.signal = .stopped) (message : String) :
    Scheduled retryDelay watched world [] (announce message .cancelled world) where
  keeps := (plain_announce message .cancelled).orderly world
  marks := Journal.marks_eq_nil ((plain_announce message .cancelled).unmarked world)
  watch := Nat.zero_le _
  first := nofun
  forward := List.forall_mem_nil _
  spaced := .nil
  unstopped := by
    apply AtMostAfterStop.of_length_le
    rw [Journal.only_isStart, (plain_announce message .cancelled).unmarked]
    exact Nat.le_refl _
  early := fun _ _ _ _ => List.forall_mem_nil _
  declines := fun _ => ⟨rfl, rfl, announce_now _ _ _⟩
  completes := by simp [announce]
  atOnce := nofun
  cancels := fun _ => .inl ⟨rfl, stopped, announce_now _ _ _⟩
  halts := fun _ => ⟨[], message, world, rfl, by simp [stopped]⟩
  pauses := nofun
  returns := nofun
  noticed := fun _ _ _ => List.forall_mem_nil _

/-- Nobody watches another attempt. -/
theorem unwatched (goesOn : world.signal ≠ .stopped) :
    Scheduled retryDelay 0 world [] ⟨[], world, none⟩ where
  keeps := .nothing none
  marks := rfl
  watch := Nat.le_refl _
  first := nofun
  forward := List.forall_mem_nil _
  spaced := .nil
  unstopped := .of_length_le (Nat.le_refl _)
  early := fun _ _ _ _ => List.forall_mem_nil _
  declines := fun stopped => absurd stopped goesOn
  completes := by simp
  atOnce := nofun
  cancels := nofun
  halts := nofun
  pauses := fun _ => .inr ⟨rfl, goesOn, .inl ⟨rfl, rfl⟩⟩
  returns := by omega
  noticed := fun _ _ _ => List.forall_mem_nil _

variable {round : Round}

/-- The only attempt has not ended, or supervision ends with it. -/
theorem last (attempted : Attempted world round run) (goesOn : world.signal ≠ .stopped)
    (completes : run.value = some .completed ↔ ∃ finish, round.SucceedsAt finish)
    (atOnce : ∀ finish, round.SucceedsAt finish → run.world.now = finish)
    (cancels : run.value = some .cancelled → ∃ finish time, round.FailsAt finish ∧
      world.turnsAt? run.journal = some time ∧ time ≤ finish + retryDelay ∧
      run.world.now = max finish time)
    (halts : run.value = some .cancelled → ∃ before message begun,
      run.journal = before ++ (announce message .cancelled begun).journal ∧
        world.signal.afterAll before ≠ .running)
    (pauses : run.value = none → round.ending = none)
    (fails : ∀ finish, round.FailsAt finish → run.value = some .cancelled) :
    Scheduled retryDelay (watched + 1) world [round] run where
  keeps := attempted.keeps
  marks := by rw [attempted.marks, List.flatMap_singleton]
  watch := Nat.le_add_left _ _
  first := by
    rintro _ ⟨⟩
    exact attempted.start
  forward := by
    rw [List.forall_mem_singleton]
    exact ⟨Nat.le_of_eq attempted.start.symm, attempted.forward⟩
  spaced := .singleton round
  unstopped := attempted.unstopped
  early := by
    intro time _ _ later
    rw [List.forall_mem_singleton, attempted.start]
    exact later
  declines := fun stopped => absurd stopped goesOn
  completes := by simpa using completes
  atOnce := by
    rintro _ finish ⟨⟩
    exact atOnce finish
  cancels := by
    intro cancelled
    obtain ⟨finish, time, fails, turns, inTime, now⟩ := cancels cancelled
    exact .inr ⟨round, finish, time, rfl, fails, turns, inTime, now⟩
  halts := halts
  pauses := fun pending => .inl ⟨round, rfl, pauses pending⟩
  returns := fun _ _ _ _ _ pending => ⟨round, rfl, pauses pending⟩
  noticed := by
    intro time _ _
    rw [List.forall_mem_singleton]
    exact fun finish failed _ => ⟨rfl, fails finish failed⟩

variable {β : Type} {tried : Run β} {waited : Run Bool}

/-- The attempt has not ended. -/
theorem unfinished (attempted : Attempted world round tried) (goesOn : world.signal ≠ .stopped)
    (unended : round.ending = none) :
    Scheduled retryDelay (watched + 1) world [round] ⟨tried.journal, tried.world, none⟩ := by
  have whole : Attempted world round
      (⟨tried.journal, tried.world, none⟩ : Run (Option SupervisionEnd)) :=
    ⟨attempted.keeps.replace _, attempted.marks, attempted.start, attempted.forward,
      attempted.unstopped⟩
  apply last whole goesOn
  · simp [Round.SucceedsAt, unended]
  · simp [Round.SucceedsAt, unended]
  · exact nofun
  · exact nofun
  · exact fun _ => unended
  · simp [Round.FailsAt, unended]

/-- The attempt ends well, and supervision says so. -/
theorem finished (attempted : Attempted world round tried) (goesOn : world.signal ≠ .stopped)
    (well : round.SucceedsAt tried.world.now) (message : String) :
    Scheduled retryDelay (watched + 1) world [round]
      (tried.andThen (announce message .completed tried.world)) := by
  have plain := plain_announce message .completed
  have whole := attempted.append (plain.orderly tried.world) (plain.unmarked tried.world)
  apply last whole goesOn
  · exact iff_of_true rfl ⟨_, well⟩
  · intro finish again
    rw [Round.SucceedsAt, well] at again
    cases again
    exact announce_now message .completed _
  · exact nofun
  · exact nofun
  · exact nofun
  · rintro finish ⟨error, failed⟩
    rw [well] at failed
    cases failed

/-- The attempt fails, and the signal is noticed in the delay after it. -/
theorem cancelled (attempted : Attempted world round tried) (goesOn : world.signal ≠ .stopped)
    (failed : round.FailsAt tried.world.now) (delayed : Delayed retryDelay tried.world waited)
    (unmarked : waited.journal.only isMark = []) (noticed : waited.value = true)
    (message : String) :
    Scheduled retryDelay (watched + 1) world [round]
      (tried.andThen (waited.andThen (announce message .cancelled waited.world))) := by
  have paused := attempted.append delayed.keeps unmarked
  have plain := plain_announce message .cancelled
  have whole := paused.append (plain.orderly waited.world) (plain.unmarked waited.world)
  have halted := delayed.halts noticed
  obtain ⟨error, ending⟩ := failed
  rw [← Run.andThen_assoc]
  apply last whole goesOn
  · simp [Round.SucceedsAt, ending, Run.andThen, announce]
  · simp [Round.SucceedsAt, ending]
  · intro _
    obtain ⟨time, turns, inTime, later⟩ := delayed.turned_after attempted.keeps halted
    refine ⟨tried.world.now, time, ⟨error, ending⟩, ?_, inTime, ?_⟩
    · exact World.turnsAt?_append_of_some turns _
    · rw [← later]
      exact announce_now message .cancelled _
  · intro _
    have signal : waited.world.signal = world.signal.afterAll (tried.journal ++ waited.journal) :=
      paused.keeps.signal
    exact ⟨tried.journal ++ waited.journal, message, waited.world, rfl, signal ▸ halted⟩
  · exact fun pending => absurd pending (Option.some_ne_none _)
  · exact fun _ _ => rfl

end Scheduled

/-! ## One more round before others -/

/-- A round fails, and the delay after it lasts to its end: the next one is due. -/
structure Elapsed {β : Type} (retryDelay : Nat) (world : World) (round : Round) (finish : Nat)
    (run : Run β) : Prop extends Attempted world round run where
  /-- No stop has been asked for before it. -/
  goesOn : world.signal ≠ .stopped
  /-- It fails. -/
  failed : round.FailsAt finish
  /-- The delay is over now. -/
  lasts : run.world.now = finish + retryDelay
  /-- If the worker shall not go on, that has come to pass during the attempt or the delay. -/
  turned : run.world.signal ≠ .running → ∃ time,
    world.turnsAt? run.journal = some time ∧ time ≤ finish + retryDelay ∧
    run.world.now = max finish time
  /-- What is planned is still to come. -/
  ahead : ∀ time change, run.world.planned = some (time, change) → run.world.now < time
  /-- The signal does not come before the end of the delay. -/
  unnoticed : 0 < retryDelay → ∀ time, world.signalTime? = some time → ¬time < finish + retryDelay

/-- The last one of the later rounds is the last one of all. -/
theorem getLast?_cons_of_some {round last : Round} {rounds : List Round}
    (is : rounds.getLast? = some last) : (round :: rounds).getLast? = some last := by
  rw [List.getLast?_cons, is]
  rfl

/-- A round that fails is not the last one if that ends well. -/
theorem getLast?_of_succeedsAt {round last : Round} {rounds : List Round}
    {finish time : Nat} (failed : round.FailsAt finish)
    (is : (round :: rounds).getLast? = some last) (well : last.SucceedsAt time) :
    rounds.getLast? = some last := by
  cases rounds with
  | nil =>
    obtain rfl : round = last := Option.some.inj is
    obtain ⟨error, ending⟩ := failed
    rw [Round.SucceedsAt, ending] at well
    cases well
  | cons next rest => rwa [List.getLast?_cons_cons] at is

namespace Elapsed

variable {β : Type} {retryDelay watched finish : Nat} {world : World} {round : Round}
  {rounds : List Round} {tried : Run β} {run : Run (Option SupervisionEnd)}

/-- The first round comes before those of the later schedule. -/
theorem forward_cons (elapsed : Elapsed retryDelay world round finish tried)
    (later : Scheduled retryDelay watched tried.world rounds run) :
    ∀ other ∈ round :: rounds, world.now ≤ other.start ∧
      ∀ ending, other.ending = some ending → other.start ≤ ending.1 := by
  rw [List.forall_mem_cons]
  refine ⟨⟨Nat.le_of_eq elapsed.start.symm, elapsed.forward⟩, fun other among => ?_⟩
  have since := later.forward other among
  exact ⟨Nat.le_trans elapsed.keeps.forward since.1, since.2⟩

/-- After a stop nothing is begun, in the first round as in the later ones. -/
theorem unstopped_cons (elapsed : Elapsed retryDelay world round finish tried)
    (later : Scheduled retryDelay watched tried.world rounds run) :
    AtMostAfterStop isStart 0 world.signal (tried.andThen run).journal := by
  have unstopped := later.unstopped
  rw [elapsed.keeps.signal] at unstopped
  refine elapsed.unstopped.append unstopped fun stopped => ?_
  obtain ⟨rfl, _⟩ := later.declines (elapsed.keeps.signal.trans stopped)
  have unmarked := later.marks
  rw [Journal.only_isStart, Journal.only_isMark, unmarked]
  rfl

/-- If a stop comes early, every round is begun before it. -/
theorem early_cons (elapsed : Elapsed retryDelay world round finish tried)
    (later : Scheduled retryDelay watched tried.world rounds run) {time : Nat}
    (running : world.signal = .running) (planned : world.planned = some (time, .stop))
    (soon : world.now < time) : ∀ other ∈ round :: rounds, other.start < time := by
  rw [List.forall_mem_cons, elapsed.start]
  refine ⟨soon, ?_⟩
  obtain stopped | ⟨still, plan⟩ := elapsed.keeps.stopped_or_planned running planned
  · obtain ⟨rfl, _⟩ := later.declines stopped
    exact List.forall_mem_nil _
  · exact later.early time still plan (elapsed.ahead time _ plan)

/-- Supervision completes if the last of all the rounds succeeds. -/
theorem completes_cons (elapsed : Elapsed retryDelay world round finish tried)
    (later : Scheduled retryDelay watched tried.world rounds run) :
    (tried.andThen run).value = some .completed ↔
      ∃ last time, (round :: rounds).getLast? = some last ∧ last.SucceedsAt time := by
  apply later.completes.trans
  constructor
  · rintro ⟨last, time, is, well⟩
    exact ⟨last, time, getLast?_cons_of_some is, well⟩
  · rintro ⟨last, time, is, well⟩
    exact ⟨last, time, getLast?_of_succeedsAt elapsed.failed is well, well⟩

/-- Supervision is cancelled after this round or after a later one. -/
theorem cancels_cons (elapsed : Elapsed retryDelay world round finish tried)
    (later : Scheduled retryDelay watched tried.world rounds run)
    (cancelled : run.value = some .cancelled) :
    ∃ last ended time, (round :: rounds).getLast? = some last ∧ last.FailsAt ended ∧
      world.turnsAt? (tried.andThen run).journal = some time ∧ time ≤ ended + retryDelay ∧
      run.world.now = max ended time := by
  obtain ⟨rfl, stopped, now⟩ | ⟨last, ended, time, is, fails, turns, inTime, now⟩ :=
    later.cancels cancelled
  · obtain ⟨time, turns, inTime, max⟩ := elapsed.turned (by simp [stopped])
    exact ⟨round, finish, time, rfl, elapsed.failed, World.turnsAt?_append_of_some turns _, inTime,
      now.trans max⟩
  · obtain ⟨earlier, turned, before, same⟩ := elapsed.keeps.turnsAt?_append turns
    obtain ⟨_, ends⟩ := fails
    have since := later.forward last (List.mem_of_getLast? is)
    have finishes := since.2 _ ends
    refine ⟨last, ended, earlier, getLast?_cons_of_some is, ⟨_, ends⟩, turned,
      Nat.le_trans before inTime, ?_⟩
    rw [same ended (Nat.le_trans since.1 finishes)]
    exact now

/-- Supervision without an end is within an attempt or in the pause after it. -/
theorem pauses_cons (elapsed : Elapsed retryDelay world round finish tried)
    (later : Scheduled retryDelay watched tried.world rounds run) (pending : run.value = none) :
    (∃ last, (round :: rounds).getLast? = some last ∧ last.ending = none) ∨
      (rounds.length = watched ∧ run.world.signal ≠ .stopped ∧
        ∃ last ended, (round :: rounds).getLast? = some last ∧ last.FailsAt ended ∧
          run.world.now = ended + retryDelay) := by
  obtain ⟨last, is, unended⟩ | ⟨all, unstopped, next⟩ := later.pauses pending
  · exact .inl ⟨last, getLast?_cons_of_some is, unended⟩
  · refine .inr ⟨all, unstopped, ?_⟩
    obtain ⟨rfl, now⟩ | ⟨last, ended, is, fails, now⟩ := next
    · exact ⟨round, finish, rfl, elapsed.failed, now.trans elapsed.lasts⟩
    · exact ⟨last, ended, getLast?_cons_of_some is, fails, now⟩

/-- Supervision that outlasts a stop is held by its last attempt. -/
theorem returns_cons (elapsed : Elapsed retryDelay world round finish tried)
    (later : Scheduled retryDelay watched tried.world rounds run) {time : Nat}
    (running : world.signal = .running) (planned : world.planned = some (time, .stop))
    (enough : time ≤ world.now + (watched + 1) * retryDelay) (pending : run.value = none) :
    ∃ last, (round :: rounds).getLast? = some last ∧ last.ending = none := by
  obtain stopped | ⟨still, plan⟩ := elapsed.keeps.stopped_or_planned running planned
  · obtain ⟨_, cancelled, _⟩ := later.declines stopped
    rw [cancelled] at pending
    cases pending
  · obtain ⟨error, ending⟩ := elapsed.failed
    have finishes : round.start ≤ finish := elapsed.forward _ ending
    have start := elapsed.start
    have lasts := elapsed.lasts
    rw [Nat.succ_mul] at enough
    obtain ⟨last, is, unended⟩ :=
      later.returns time still plan (elapsed.ahead time _ plan) (by omega) pending
    exact ⟨last, getLast?_cons_of_some is, unended⟩

/-- The signal comes too late for this round, and what is said of later ones holds. -/
theorem noticed_cons (elapsed : Elapsed retryDelay world round finish tried)
    (later : Scheduled retryDelay watched tried.world rounds run) {time : Nat}
    (comes : world.signalTime? = some time) (positive : 0 < retryDelay) :
    ∀ other ∈ round :: rounds, ∀ ended, other.FailsAt ended → time < ended + retryDelay →
      (round :: rounds).getLast? = some other ∧ run.value = some .cancelled := by
  rw [List.forall_mem_cons]
  constructor
  · rintro ended ⟨_, ends⟩ soon
    obtain ⟨_, ending⟩ := elapsed.failed
    rw [ending] at ends
    cases ends
    exact absurd soon (elapsed.unnoticed positive time comes)
  · intro other among ended fails soon
    obtain ⟨next, coming, before⟩ := elapsed.keeps.signalTime?_le comes
    have since := later.forward other among
    obtain ⟨_, ends⟩ := fails
    have finishes : other.start ≤ ended := since.2 _ ends
    have lasts := elapsed.lasts
    obtain ⟨is, value⟩ :=
      later.noticed next coming positive other among ended ⟨_, ends⟩ (by omega)
    exact ⟨getLast?_cons_of_some is, value⟩

/-- What goes on as scheduled does so with one more round before it. -/
theorem scheduled (elapsed : Elapsed retryDelay world round finish tried)
    (later : Scheduled retryDelay watched tried.world rounds run) :
    Scheduled retryDelay (watched + 1) world (round :: rounds) (tried.andThen run) where
  keeps := elapsed.keeps.append later.keeps
  marks := by
    rw [Run.andThen, Journal.marks_append, elapsed.marks, later.marks, List.flatMap_cons]
  watch := Nat.succ_le_succ later.watch
  first := by
    rintro _ ⟨⟩
    exact elapsed.start
  forward := elapsed.forward_cons later
  spaced := by
    cases rounds with
    | nil => exact .singleton round
    | cons next rest =>
      refine .cons_cons ⟨finish, elapsed.failed, ?_⟩ later.spaced
      rw [later.first next rfl, elapsed.lasts]
  unstopped := elapsed.unstopped_cons later
  early := fun _ => elapsed.early_cons later
  declines := fun stopped => absurd stopped elapsed.goesOn
  completes := elapsed.completes_cons later
  atOnce := fun last time is well =>
    later.atOnce last time (getLast?_of_succeedsAt elapsed.failed is well) well
  cancels := fun cancelled => .inr (elapsed.cancels_cons later cancelled)
  halts := by
    intro cancelled
    obtain ⟨before, message, begun, journal, halted⟩ := later.halts cancelled
    refine ⟨tried.journal ++ before, message, begun, ?_, ?_⟩
    · rw [Run.andThen, journal, List.append_assoc]
    · rwa [Signal.afterAll_append, ← elapsed.keeps.signal]
  pauses := by
    intro pending
    obtain unended | ⟨all, unstopped, next⟩ := elapsed.pauses_cons later pending
    · exact .inl unended
    · exact .inr ⟨congrArg (· + 1) all, unstopped, .inr next⟩
  returns := fun _ running planned _ enough pending =>
    elapsed.returns_cons later running planned enough pending
  noticed := fun _ comes => elapsed.noticed_cons later comes

end Elapsed

/-- The attempt fails, and the delay after it lasts to its end. -/
theorem Scheduled.retried {retryDelay watched : Nat} {world : World} {round : Round}
    {rounds : List Round} {β : Type} {tried : Run β} {waited : Run Bool}
    {run : Run (Option SupervisionEnd)} (attempted : Attempted world round tried)
    (goesOn : world.signal ≠ .stopped) (failed : round.FailsAt tried.world.now)
    (delayed : Delayed retryDelay tried.world waited) (unmarked : waited.journal.only isMark = [])
    (unnoticed : waited.value = false)
    (later : Scheduled retryDelay watched waited.world rounds run) :
    Scheduled retryDelay (watched + 1) world (round :: rounds)
      (tried.andThen (waited.andThen run)) := by
  have elapsed : Elapsed retryDelay world round tried.world.now (tried.andThen waited) :=
    { attempted.append delayed.keeps unmarked with
      goesOn
      failed
      lasts := delayed.lasts unnoticed
      turned := delayed.turned_after attempted.keeps
      ahead := fun time change => delayed.ahead time change unnoticed
      unnoticed := by
        intro positive time comes early
        have noticed := delayed.noticed_after attempted.keeps positive comes early
        rw [unnoticed] at noticed
        cases noticed }
  rw [← Run.andThen_assoc]
  exact elapsed.scheduled later

/-- Every course of supervision keeps to the schedule. -/
theorem Coursed.scheduled (orderly : ∀ session, (runOnce session).Orderly)
    (unmarked : ∀ session world, (runOnce session world).journal.only isMark = [])
    {retryDelay : Nat} {attempts : Nat → Attempt α} {watched made : Nat} {world : World}
    {rounds : List Round} {run : Run (Option SupervisionEnd)}
    (coursed : Coursed retryDelay runOnce attempts watched made world rounds run) :
    Scheduled retryDelay watched world rounds run := by
  induction coursed with
  | declined stopped => exact .declined stopped _
  | unwatched goesOn => exact .unwatched goesOn
  | @unfinished _ made _ _ goesOn is unended =>
    subst is
    have attempted := attempted_watchAttempt orderly unmarked (attempts made).session goesOn
    exact .unfinished attempted goesOn (by rw [roundOf, unended]; rfl)
  | @finished _ made _ _ goesOn is well =>
    subst is
    have attempted := attempted_watchAttempt orderly unmarked (attempts made).session goesOn
    exact .finished attempted goesOn (by rw [Round.SucceedsAt, roundOf, well]; rfl) _
  | @cancelled _ made _ _ _ _ goesOn is failed paused noticed =>
    subst is
    subst paused
    have attempted := attempted_watchAttempt orderly unmarked (attempts made).session goesOn
    exact .cancelled attempted goesOn ⟨_, by rw [roundOf, failed]; rfl⟩
      (delayed_pause _ _ _ _) ((plain_pause _ _ _).unmarked _) noticed _
  | @retried _ made _ _ _ _ _ _ goesOn is failed paused unnoticed later ih =>
    subst is
    subst paused
    have attempted := attempted_watchAttempt orderly unmarked (attempts made).session goesOn
    exact .retried attempted goesOn ⟨_, by rw [roundOf, failed]; rfl⟩
      (delayed_pause _ _ _ _) ((plain_pause _ _ _).unmarked _) unnoticed ih

/-! ## Any attempts -/

/-- Something that can be attempted: it goes its own way in time, may end well or fail, or not end
as far as it is watched. -/
structure Trial where
  /-- What is attempted. -/
  run : Sim (Option (Except WorkerError Unit))
  /-- It keeps time. -/
  orderly : run.Orderly
  /-- No other attempt is made in it. -/
  unmarked : ∀ world, (run world).journal.only isMark = []

/-- An attempt that takes some time, and ends with a result if it does. -/
def Trial.lasting (delay : Nat) (result : Option (Except WorkerError Unit)) : Trial where
  run := do
    Sim.wait delay
    return result
  orderly := .bind (.wait delay) fun _ => .pure result
  unmarked := by
    intro world
    rw [Sim.bind_pure_apply]
    exact Sim.only_wait isSilent_isMark.ignoresSignals delay world

/-- Whatever is attempted, one attempt follows another so long after its failure; none begins after
a stop has been asked for, and supervision ends at once when an attempt ends well or when the worker
shall not go on. -/
theorem course_keepsSchedule (retryDelay : Nat) (trials : Nat → Attempt Trial) (watched : Nat)
    (world : World) :
    let run := course retryDelay Trial.run trials watched 0 world
    (∃ rounds, Scheduled retryDelay watched world rounds run) ∧
      Follows retryDelay (firstAttempts Trial.run trials watched 0) world run := by
  obtain ⟨rounds, coursed⟩ := coursed_course Trial.run retryDelay trials watched 0 world
  exact ⟨⟨rounds, coursed.scheduled Trial.orderly Trial.unmarked⟩, coursed.follows⟩

/-- A stop that comes just as the delay ends lets no further attempt begin, even if the end of the
delay is noticed first. -/
example :
    let failing : Attempt Trial := ⟨.lasting 5 (some (.error (.streamClosed "usage"))), .other⟩
    let world := { World.start with planned := some (30, .stop) }
    let run := course 10 Trial.run (fun _ => failing) 3 0 world
    run.journal.marks.map Entry.time = [0, 5, 15, 20] ∧ run.value = some .cancelled :=
  ⟨rfl, rfl⟩

end Supervision

end EventLedger

import EventLedger.Proofs.Timekeeping
import EventLedger.Proofs.Turns
import EventLedger.Supervision.Course

/-!
# Courses of supervision as rounds of attempts

A course of supervision is a list of rounds: an attempt, and after its failure a pause. All that it
can be is said by `Coursed`. As far as it is watched, a course is the supervision of its first
attempts.
-/
namespace EventLedger

/-! ## Attempts -/

/-- Whether an attempt begins or ends. -/
def isMark : Occurrence → Bool
  | .attemptStarted | .attemptEnded _ => true
  | _ => false

/-- Whether an attempt begins. -/
def isStart : Occurrence → Bool
  | .attemptStarted => true
  | _ => false

/-- Neither signals nor what a store says are marks. -/
theorem isSilent_isMark : Consumer.IsSilent isMark := ⟨fun _ _ => rfl, fun _ => rfl⟩

/-- The beginnings and ends of attempts, with their times. -/
def Journal.marks (journal : Journal) : Journal := journal.filter fun entry => isMark entry.what

/-- The marks of one journal come before those of a later one. -/
@[simp]
theorem Journal.marks_append (first second : Journal) :
    Journal.marks (first ++ second) = first.marks ++ second.marks := List.filter_append ..

/-- The marks are what happens of their sort, with the times. -/
theorem Journal.only_isMark (journal : Journal) :
    journal.only isMark = journal.marks.map Entry.what := List.filter_map ..

/-- Where nothing happens of that sort, there are none. -/
theorem Journal.marks_eq_nil {journal : Journal} (none : journal.only isMark = []) :
    journal.marks = [] := by
  rw [Journal.only_isMark] at none
  exact List.map_eq_nil_iff.mp none

/-- What begins is marked. -/
theorem Journal.only_isStart (journal : Journal) :
    journal.only isStart = (journal.only isMark).filter isStart :=
  journal.only_of_imp fun what => by cases what <;> simp [isStart, isMark]

/-- An attempt: when it begins, and when and how it ends, if it does. -/
structure Round where
  /-- The time at which it begins. -/
  start : Nat
  /-- The time at which it ends, and its result. -/
  ending : Option (Nat × Except WorkerError Unit)

namespace Round

/-- The beginning and the end of an attempt. -/
def marks (round : Round) : Journal :=
  ⟨round.start, .attemptStarted⟩ ::
    (round.ending.map fun ending => ⟨ending.1, .attemptEnded ending.2⟩).toList

/-- The attempt fails at a time. -/
def FailsAt (round : Round) (finish : Nat) : Prop :=
  ∃ error, round.ending = some (finish, .error error)

/-- The attempt ends well at a time. -/
def SucceedsAt (round : Round) (finish : Nat) : Prop := round.ending = some (finish, .ok ())

end Round

/-! ## Plain runs -/

/-- Nothing is taken and nothing is attempted. -/
structure Sim.Plain {α : Type} (run : Sim α) : Prop where
  /-- It keeps time. -/
  orderly : run.Orderly
  /-- Nothing is done with deliveries. -/
  deeds : ∀ world, (run world).journal.deeds = []
  /-- Nothing is attempted. -/
  unmarked : ∀ world, (run world).journal.only isMark = []

namespace Sim.Plain

variable {α β : Type}

/-- A value comes of nothing. -/
theorem pure (value : α) : Plain (Pure.pure value : Sim α) :=
  ⟨.pure value, fun _ => rfl, fun _ => rfl⟩

/-- Plain runs one after another are a plain run. -/
theorem bind {first : Sim α} {next : α → Sim β} (before : Plain first)
    (after : ∀ value, Plain (next value)) : Plain (first >>= next) where
  orderly := before.orderly.bind fun value => (after value).orderly
  deeds := by
    intro world
    rw [Sim.bind_journal, Journal.deeds, Journal.only_append, ← Journal.deeds, ← Journal.deeds,
      before.deeds, (after _).deeds]
    rfl
  unmarked := by
    intro world
    rw [Sim.bind_journal, Journal.only_append, before.unmarked, (after _).unmarked]
    rfl

/-- Waiting is plain. -/
theorem wait (millis : Nat) : Plain (Sim.wait millis) where
  orderly := .wait millis
  deeds := Sim.only_wait Sim.isDeed_ignoresSignals millis
  unmarked := Sim.only_wait isSilent_isMark.ignoresSignals millis

/-- So is a wait that the signal may end. -/
theorem waitUnlessSignalled (millis : Nat) (tie : Sim.Tie) :
    Plain (Sim.waitUnlessSignalled millis tie) where
  orderly := .waitUnlessSignalled millis tie
  deeds := Sim.only_waitUnlessSignalled Sim.isDeed_ignoresSignals millis tie
  unmarked := Sim.only_waitUnlessSignalled isSilent_isMark.ignoresSignals millis tie

/-- Something that happens is plain, if it is of neither sort and says nothing of the signal. -/
theorem happen {what : Occurrence} (other : ∀ change source, what ≠ .signalled change source)
    (idle : what.isDeed = false) (unmarked : isMark what = false) : Plain (Sim.happen what) where
  orderly := .happen other
  deeds := by
    intro world
    rw [Journal.deeds, Sim.only_happen Sim.isDeed_ignoresSignals, List.filter_cons, idle]
    rfl
  unmarked := by
    intro world
    rw [Sim.only_happen isSilent_isMark.ignoresSignals, List.filter_cons, unmarked]
    rfl

/-- So is logging. -/
theorem log (level : Log.Level) (target message : String) (fields : Log.Fields) :
    Plain (Sim.log level target message fields) := happen nofun rfl rfl

end Sim.Plain

namespace Supervision

variable {α : Type} {runOnce : α → Sim (Option (Except WorkerError Unit))}

/-- What an attempt adds to what happens in it is its beginning and its end. -/
theorem watchAttempt_apply (runOnce : α → Sim (Option (Except WorkerError Unit))) (session : α)
    (world : World) :
    watchAttempt runOnce session world =
      let tried := runOnce session world
      let ended := tried.value.map fun result => ⟨tried.world.now, .attemptEnded result⟩
      ⟨⟨world.now, .attemptStarted⟩ :: (tried.journal ++ ended.toList), tried.world,
        tried.value⟩ := by
  have started : Sim.happen .attemptStarted world =
      ⟨[⟨world.now, .attemptStarted⟩], world, ()⟩ := rfl
  rw [watchAttempt, Sim.bind_apply, started]
  simp only [Sim.bind_apply]
  cases (runOnce session world).value <;> rfl

/-- The round of an attempt that begins now and has come to something. -/
def roundOf (world : World) (tried : Run (Option (Except WorkerError Unit))) : Round :=
  { start := world.now, ending := tried.value.map fun result => (tried.world.now, result) }

/-! ## What a course can be -/

/-- Say why an attempt failed, and wait. -/
def pause (retryDelay : Nat) (error : WorkerError) (tie : Sim.Tie) : Sim Bool := do
  reportFailure retryDelay error
  Sim.waitUnlessSignalled retryDelay tie

/-- Say why supervision ends. -/
def announce (message : String) (ending : SupervisionEnd) : Sim (Option SupervisionEnd) := do
  Sim.log .info logTarget message []
  return some ending

/-- A failure is reported plainly. -/
theorem plain_reportFailure (retryDelay : Nat) (error : WorkerError) :
    (reportFailure retryDelay error).Plain := .bind (.log _ _ _ _) fun _ => .happen nofun rfl rfl

/-- The pause after it is plain. -/
theorem plain_pause (retryDelay : Nat) (error : WorkerError) (tie : Sim.Tie) :
    (pause retryDelay error tie).Plain :=
  .bind (plain_reportFailure retryDelay error) fun _ => .waitUnlessSignalled retryDelay tie

/-- So is the announcement of an end. -/
theorem plain_announce (message : String) (ending : SupervisionEnd) :
    (announce message ending).Plain := .bind (.log _ _ _ _) fun _ => .pure _

/-- Supervision that is declined is announced as cancelled. -/
theorem watchEnd_declined :
    watchEnd (declined ([] : List (Attempt α))) = announce "worker 已停止" .cancelled := by
  funext world
  simp [watchEnd, declined, announce, Sim.bind_apply]

/-- Supervision that is finished is announced as completed. -/
theorem watchEnd_finished :
    watchEnd (finished ([] : List (Attempt α))) = announce "worker 正常退出" .completed := by
  funext world
  simp [watchEnd, finished, announce, Sim.bind_apply]

/-- What a course can be, and its rounds. -/
inductive Coursed (retryDelay : Nat) (runOnce : α → Sim (Option (Except WorkerError Unit)))
    (attempts : Nat → Attempt α) :
    (watched made : Nat) → World → List Round → Run (Option SupervisionEnd) → Prop where
  /-- No attempt is made after a stop. -/
  | declined {watched made : Nat} {world : World} (stopped : world.signal = .stopped) :
      Coursed retryDelay runOnce attempts watched made world []
        (announce "worker 已停止" .cancelled world)
  /-- Nobody watches another attempt. -/
  | unwatched {made : Nat} {world : World} (goesOn : world.signal ≠ .stopped) :
      Coursed retryDelay runOnce attempts 0 made world [] ⟨[], world, none⟩
  /-- An attempt has not ended. -/
  | unfinished {watched made : Nat} {world : World} {tried : Run (Option (Except WorkerError Unit))}
      (goesOn : world.signal ≠ .stopped)
      (is : watchAttempt runOnce (attempts made).session world = tried)
      (unended : tried.value = none) :
      Coursed retryDelay runOnce attempts (watched + 1) made world [roundOf world tried]
        ⟨tried.journal, tried.world, none⟩
  /-- An attempt ends well. -/
  | finished {watched made : Nat} {world : World} {tried : Run (Option (Except WorkerError Unit))}
      (goesOn : world.signal ≠ .stopped)
      (is : watchAttempt runOnce (attempts made).session world = tried)
      (well : tried.value = some (.ok ())) :
      Coursed retryDelay runOnce attempts (watched + 1) made world [roundOf world tried]
        (tried.andThen (announce "worker 正常退出" .completed tried.world))
  /-- An attempt fails, and the signal is noticed in the pause after it. -/
  | cancelled {watched made : Nat} {world : World} {tried : Run (Option (Except WorkerError Unit))}
      {error : WorkerError} {waited : Run Bool} (goesOn : world.signal ≠ .stopped)
      (is : watchAttempt runOnce (attempts made).session world = tried)
      (failed : tried.value = some (.error error))
      (paused : pause retryDelay error (attempts made).tie tried.world = waited)
      (noticed : waited.value = true) :
      Coursed retryDelay runOnce attempts (watched + 1) made world [roundOf world tried]
        (tried.andThen (waited.andThen
          (announce "等待重试期间收到关闭信号，worker 已停止" .cancelled waited.world)))
  /-- An attempt fails, and after the pause the course goes on. -/
  | retried {watched made : Nat} {world : World} {tried : Run (Option (Except WorkerError Unit))}
      {error : WorkerError} {waited : Run Bool} {rounds : List Round}
      {run : Run (Option SupervisionEnd)} (goesOn : world.signal ≠ .stopped)
      (is : watchAttempt runOnce (attempts made).session world = tried)
      (failed : tried.value = some (.error error))
      (paused : pause retryDelay error (attempts made).tie tried.world = waited)
      (unnoticed : waited.value = false)
      (later : Coursed retryDelay runOnce attempts watched (made + 1) waited.world rounds run) :
      Coursed retryDelay runOnce attempts (watched + 1) made world (roundOf world tried :: rounds)
        (tried.andThen (waited.andThen run))

/-- What follows the report of a failure and a wait follows the pause. -/
theorem pause_bind {β : Type} (retryDelay : Nat) (error : WorkerError) (tie : Sim.Tie)
    (next : Bool → Sim β) (world : World) :
    (reportFailure retryDelay error >>= fun _ =>
      Sim.waitUnlessSignalled retryDelay tie >>= next) world =
      (pause retryDelay error tie world).andThen
        (next (pause retryDelay error tie world).value
          (pause retryDelay error tie world).world) := by
  simp only [pause, Sim.bind_apply, Run.andThen, List.append_assoc]

/-- Every course is one of these. -/
theorem coursed_course (runOnce : α → Sim (Option (Except WorkerError Unit))) (retryDelay : Nat)
    (attempts : Nat → Attempt α) (watched made : Nat) (world : World) :
    ∃ rounds, Coursed retryDelay runOnce attempts watched made world rounds
      (course retryDelay runOnce attempts watched made world) := by
  induction watched generalizing made world with
  | zero =>
    rw [course, Sim.world_bind]
    cases stopped : world.isStopped with
    | true =>
      simp only [↓reduceIte]
      rw [watchEnd_declined]
      exact ⟨[], .declined (of_decide_eq_true stopped)⟩
    | false => exact ⟨[], .unwatched (of_decide_eq_false stopped)⟩
  | succ watched ih =>
    rw [course, Sim.world_bind]
    cases stopped : world.isStopped with
    | true =>
      simp only [↓reduceIte]
      rw [watchEnd_declined]
      exact ⟨[], .declined (of_decide_eq_true stopped)⟩
    | false =>
      have goesOn : world.signal ≠ .stopped := of_decide_eq_false stopped
      simp only [Bool.false_eq_true, ↓reduceIte]
      rw [Sim.bind_eq_andThen]
      generalize is : watchAttempt runOnce (attempts made).session world = tried
      cases value : tried.value with
      | none =>
        simp only [Run.andThen, Sim.pure_apply, List.append_nil]
        exact ⟨_, .unfinished goesOn is value⟩
      | some result =>
        cases result with
        | ok nothing =>
          simp only
          rw [watchEnd_finished]
          exact ⟨_, .finished goesOn is value⟩
        | error error =>
          simp only
          rw [pause_bind]
          generalize paused : pause retryDelay error (attempts made).tie tried.world = waited
          cases noticed : waited.value with
          | true => exact ⟨_, .cancelled goesOn is value paused noticed⟩
          | false =>
            obtain ⟨rounds, later⟩ := ih (made + 1) waited.world
            exact ⟨_, .retried goesOn is value paused noticed later⟩

/-! ## Supervision of the first attempts -/

/-- Run an attempt as if it had ended well where it is not watched any further. -/
def conclude (run : Sim (Option (Except WorkerError Unit))) : Sim (Except WorkerError Unit) := do
  return (← run).getD (.ok ())

/-- The first attempts of a course, from the one of a number on. -/
def firstAttempts (runOnce : α → Sim (Option (Except WorkerError Unit)))
    (attempts : Nat → Attempt α) (watched made : Nat) :
    List (Attempt (Sim (Except WorkerError Unit))) :=
  (List.range' made watched).map fun number =>
    { session := conclude (runOnce (attempts number).session), tie := (attempts number).tie }

/-- A course is the supervision of some attempts, as far as it goes. -/
structure Follows (retryDelay : Nat) (attempts : List (Attempt (Sim (Except WorkerError Unit))))
    (world : World) (run : Run (Option SupervisionEnd)) : Prop where
  /-- What happens is the beginning of what happens then. -/
  journal : run.journal <+: (supervise retryDelay id attempts world).journal
  /-- If it has ended, it is all that happens then. -/
  ended : ∀ ending, run.value = some ending →
    (supervise retryDelay id attempts world).journal = run.journal ∧
      (supervise retryDelay id attempts world).world = run.world ∧
      (supervise retryDelay id attempts world).value.1 = ending

/-- What attempt it is that is supervised for one that is watched. -/
theorem firstAttempts_succ (runOnce : α → Sim (Option (Except WorkerError Unit)))
    (attempts : Nat → Attempt α) (watched made : Nat) :
    firstAttempts runOnce attempts (watched + 1) made =
      ⟨conclude (runOnce (attempts made).session), (attempts made).tie⟩ ::
        firstAttempts runOnce attempts watched (made + 1) := rfl

/-- An attempt of a run that is concluded begins, is what the run is, and ends. -/
theorem attempt_apply (run : Sim (Option (Except WorkerError Unit))) (world : World) :
    attempt id (conclude run) world =
      let tried := run world
      let result := tried.value.getD (.ok ())
      ⟨⟨world.now, .attemptStarted⟩ ::
        (tried.journal ++ [⟨tried.world.now, .attemptEnded result⟩]), tried.world, result⟩ := by
  have started : Sim.happen .attemptStarted world =
      ⟨[⟨world.now, .attemptStarted⟩], world, ()⟩ := rfl
  rw [attempt, Sim.bind_apply, started]
  simp only [id, conclude, Sim.bind_apply, Sim.pure_apply, List.append_nil]
  rfl

/-- An attempt that has ended is supervised as it is watched. -/
theorem attempt_of_ended {session : α} {world : World} {result : Except WorkerError Unit}
    (ended : (watchAttempt runOnce session world).value = some result) :
    attempt id (conclude (runOnce session)) world =
      ⟨(watchAttempt runOnce session world).journal, (watchAttempt runOnce session world).world,
        result⟩ := by
  rw [watchAttempt_apply] at ended ⊢
  rw [attempt_apply]
  simp only at ended ⊢
  rw [ended]
  rfl

/-- What is watched of an attempt is a beginning of the attempt that is concluded. -/
theorem journal_watchAttempt_isPrefixOf (runOnce : α → Sim (Option (Except WorkerError Unit)))
    (session : α) (world : World) :
    (watchAttempt runOnce session world).journal <+:
      (attempt id (conclude (runOnce session)) world).journal := by
  rw [watchAttempt_apply, attempt_apply]
  refine List.cons_prefix_cons.mpr ⟨rfl, (List.prefix_append_right_inj _).mpr ?_⟩
  cases (runOnce session world).value with
  | none => exact List.nil_prefix
  | some result => exact List.prefix_rfl

variable {retryDelay : Nat} {world : World} {β : Type}

/-- Supervision is declined if a stop has been asked for. -/
theorem supervise_of_stopped (retryDelay : Nat) (each : β → Sim (Except WorkerError Unit))
    (attempts : List (Attempt β)) (stopped : world.signal = .stopped) :
    supervise retryDelay each attempts world = declined attempts world := by
  have isStopped : world.isStopped = true := decide_eq_true stopped
  cases attempts <;> rw [supervise, Sim.world_bind, isStopped] <;> rfl

/-- Supervision that goes on makes an attempt, and then it ends, or it pauses and goes on. -/
theorem supervise_of_goesOn (retryDelay : Nat) (each : β → Sim (Except WorkerError Unit))
    (next : Attempt β) (rest : List (Attempt β)) (goesOn : world.signal ≠ .stopped) :
    supervise retryDelay each (next :: rest) world =
      let tried := attempt each next.session world
      tried.andThen <|
        match tried.value with
        | .ok () => finished rest tried.world
        | .error error =>
          let waited := pause retryDelay error next.tie tried.world
          waited.andThen <|
            if waited.value then
              let told := announce "等待重试期间收到关闭信号，worker 已停止" .cancelled waited.world
              ⟨told.journal, told.world, (.cancelled, rest)⟩
            else supervise retryDelay each rest waited.world := by
  have running : world.isStopped = false := decide_eq_false goesOn
  rw [supervise, Sim.world_bind, running]
  simp only [Bool.false_eq_true, ↓reduceIte]
  rw [Sim.bind_eq_andThen]
  generalize attempt each next.session world = tried
  cases tried.value with
  | ok nothing => rfl
  | error error =>
    simp only
    rw [pause_bind]
    cases (pause retryDelay error next.tie tried.world).value <;> rfl

namespace Follows

/-- A course that has ended is the supervision of the attempts that it has made. -/
theorem of_ended {attempts rest : List (Attempt (Sim (Except WorkerError Unit)))}
    {ending : SupervisionEnd} {run : Run (Option SupervisionEnd)} (ended : run.value = some ending)
    (whole : supervise retryDelay id attempts world = ⟨run.journal, run.world, (ending, rest)⟩) :
    Follows retryDelay attempts world run := by
  constructor
  · exact ⟨[], by rw [whole, List.append_nil]⟩
  · intro other again
    rw [ended] at again
    cases again
    rw [whole]
    exact ⟨rfl, rfl, rfl⟩

/-- What has been watched goes before what follows. -/
theorem cons {next : Attempt (Sim (Except WorkerError Unit))} {α : Type} {first : Run α}
    {rest : List (Attempt (Sim (Except WorkerError Unit)))}
    {run : Run (Option SupervisionEnd)} (later : Follows retryDelay rest first.world run)
    (whole : supervise retryDelay id (next :: rest) world =
      first.andThen (supervise retryDelay id rest first.world)) :
    Follows retryDelay (next :: rest) world (first.andThen run) := by
  constructor
  · rw [whole]
    exact (List.prefix_append_right_inj _).mpr later.journal
  · intro ending ended
    obtain ⟨journal, world, value⟩ := later.ended ending ended
    rw [whole]
    exact ⟨congrArg (first.journal ++ ·) journal, world, value⟩

end Follows

/-- A course is the supervision of its first attempts. -/
theorem Coursed.follows {attempts : Nat → Attempt α} {watched made : Nat} {rounds : List Round}
    {run : Run (Option SupervisionEnd)}
    (coursed : Coursed retryDelay runOnce attempts watched made world rounds run) :
    Follows retryDelay (firstAttempts runOnce attempts watched made) world run := by
  induction coursed with
  | declined stopped => exact .of_ended rfl (supervise_of_stopped retryDelay id _ stopped)
  | unwatched goesOn => exact ⟨List.nil_prefix, nofun⟩
  | unfinished goesOn is unended =>
    subst is
    refine ⟨?_, nofun⟩
    rw [firstAttempts_succ, supervise_of_goesOn retryDelay id _ _ goesOn]
    exact (journal_watchAttempt_isPrefixOf runOnce _ _).trans (List.prefix_append _ _)
  | finished goesOn is well =>
    subst is
    rw [firstAttempts_succ]
    apply Follows.of_ended rfl
    rw [supervise_of_goesOn retryDelay id _ _ goesOn, attempt_of_ended well]
    rfl
  | cancelled goesOn is failed paused noticed =>
    subst is
    subst paused
    rw [firstAttempts_succ]
    apply Follows.of_ended rfl
    rw [supervise_of_goesOn retryDelay id _ _ goesOn, attempt_of_ended failed]
    simp only [noticed, ↓reduceIte]
    rfl
  | retried goesOn is failed paused unnoticed later ih =>
    subst is
    subst paused
    rw [firstAttempts_succ, ← Run.andThen_assoc]
    refine .cons ih ?_
    rw [supervise_of_goesOn retryDelay id _ _ goesOn, attempt_of_ended failed, Run.andThen_assoc]
    simp only [unnoticed, Bool.false_eq_true, ↓reduceIte]
    rfl

end Supervision

end EventLedger

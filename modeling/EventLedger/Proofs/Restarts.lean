import EventLedger.Proofs.Absence
import EventLedger.Proofs.Counting
import EventLedger.Proofs.Schedule

/-!
# What the counter of restarts counts

A failure is counted when it is reported, before the pause after which the next attempt may begin.
So what is counted are the attempts that fail, `Coursed.failures`. All of these but the last one
have been followed by another attempt: the counter tells how many attempts have begun after the
first one exactly if the last one has not failed, and it is one ahead of them if supervision is
cancelled after a failure, `CountsFailures`.
-/
namespace EventLedger

open Consumer (IsSilent)

/-! ## The counter -/

/-- Whether a failure is counted. -/
def isFailureCount : Occurrence → Bool
  | .failureCounted => true
  | _ => false

/-- Neither signals nor what a store says are counts of failures. -/
theorem isSilent_isFailureCount : IsSilent isFailureCount := ⟨fun _ _ => rfl, fun _ => rfl⟩

/-- The metrics after what happens in a run. -/
def Metrics.after (metrics : Metrics) (journal : Journal) : Metrics :=
  journal.foldl (fun metrics entry => metrics.add entry.what) metrics

/-- The counter of restarts grows with every failure that is counted, and with nothing else. -/
theorem Metrics.count_restarts_after (metrics : Metrics) (journal : Journal) :
    (metrics.after journal).count .restarts =
      metrics.count .restarts + (journal.only isFailureCount).length := by
  rw [after, count_foldl, Journal.only, ← List.countP_eq_length_filter, List.countP_map]
  congr 2
  funext entry
  rw [Function.comp_apply]
  cases entry.what <;> simp [Occurrence.counter?, isFailureCount]

/-! ## Rounds that fail -/

namespace Round

/-- Whether the attempt has failed. -/
def hasFailed (round : Round) : Bool :=
  match round.ending with
  | some (_, .error _) => true
  | _ => false

/-- A round has failed if it ends with an error. -/
theorem hasFailed_iff {round : Round} :
    round.hasFailed = true ↔ ∃ finish, round.FailsAt finish := by
  rw [hasFailed]
  constructor
  · intro failed
    split at failed
    next finish error ends => exact ⟨finish, error, ends⟩
    · cases failed
  · rintro ⟨finish, error, ends⟩
    rw [ends]

end Round

/-- The last one of the attempts has failed. -/
def FailsLast (rounds : List Round) : Prop :=
  ∃ last finish, rounds.getLast? = some last ∧ last.FailsAt finish

/-- Only the last of the rounds matters. -/
theorem failsLast_cons_cons {first second : Round} {rounds : List Round} :
    FailsLast (first :: second :: rounds) ↔ FailsLast (second :: rounds) := by
  rw [FailsLast, FailsLast, List.getLast?_cons_cons]

/-- If each attempt but the last one has failed, the failures are as many as the attempts after the
first one, and one more if the last one has failed too. -/
theorem countP_hasFailed {rounds : List Round} {follows : Round → Round → Prop}
    (spaced : rounds.IsChain follows)
    (fails : ∀ earlier later, follows earlier later → earlier.hasFailed = true) :
    (FailsLast rounds ∧ rounds.countP Round.hasFailed = rounds.length) ∨
      ¬FailsLast rounds ∧ rounds.countP Round.hasFailed = rounds.length - 1 := by
  induction spaced with
  | nil =>
    refine .inr ⟨?_, rfl⟩
    rintro ⟨_, _, ⟨⟩, _⟩
  | singleton round =>
    cases failed : round.hasFailed with
    | true =>
      obtain ⟨finish, fails⟩ := Round.hasFailed_iff.mp failed
      exact .inl ⟨⟨round, finish, rfl, fails⟩, by simp [failed]⟩
    | false =>
      refine .inr ⟨?_, by simp [failed]⟩
      rintro ⟨last, finish, is, fails⟩
      obtain rfl : round = last := Option.some.inj is
      rw [Round.hasFailed_iff.mpr ⟨finish, fails⟩] at failed
      cases failed
  | cons_cons related _ ih =>
    rw [failsLast_cons_cons, List.countP_cons_of_pos (fails _ _ related)]
    obtain ⟨failed, all⟩ | ⟨well, others⟩ := ih
    · exact .inl ⟨failed, congrArg (· + 1) all⟩
    · exact .inr ⟨well, congrArg (· + 1) others⟩

/-! ## Courses -/

namespace Supervision

variable {α : Type} {runOnce : α → Sim (Option (Except WorkerError Unit))} {retryDelay : Nat}

/-- Each pause begins with one failure that is counted. -/
theorem only_isFailureCount_pause (retryDelay : Nat) (error : WorkerError) (tie : Sim.Tie)
    (world : World) :
    (pause retryDelay error tie world).journal.only isFailureCount = [.failureCounted] := by
  have ignores := isSilent_isFailureCount.ignoresSignals
  rw [pause, Sim.bind_journal, Journal.only_append, reportFailure, Sim.bind_journal,
    Journal.only_append, Sim.only_waitUnlessSignalled ignores, Sim.log, Sim.only_happen ignores,
    Sim.only_happen ignores]
  rfl

/-- A watched attempt counts no failure. -/
theorem lacks_watchAttempt (uncounted : ∀ session, (runOnce session).Lacks isFailureCount)
    (session : α) : (watchAttempt runOnce session).Lacks isFailureCount := by
  refine .bind (.happen isSilent_isFailureCount rfl) fun _ =>
    .bind (uncounted session) fun ended => ?_
  cases ended with
  | none => exact .pure none
  | some result => exact .bind (.happen isSilent_isFailureCount rfl) fun _ => .pure _

/-- The round of an attempt has failed if the attempt has come to an error. -/
theorem hasFailed_roundOf (world : World) (tried : Run (Option (Except WorkerError Unit))) :
    (roundOf world tried).hasFailed =
      match tried.value with
      | some (.error _) => true
      | _ => false := by
  obtain ⟨_, _, _ | _ | _⟩ := tried <;> rfl

/-- The attempts that fail are counted, and nothing else is. -/
theorem Coursed.failures (uncounted : ∀ session, (runOnce session).Lacks isFailureCount)
    {attempts : Nat → Attempt α} {watched made : Nat} {world : World} {rounds : List Round}
    {run : Run (Option SupervisionEnd)}
    (coursed : Coursed retryDelay runOnce attempts watched made world rounds run) :
    (run.journal.only isFailureCount).length = rounds.countP Round.hasFailed := by
  have tries := lacks_watchAttempt uncounted
  have announces := fun message ending => lacks_announce isSilent_isFailureCount message ending
  induction coursed with
  | declined stopped =>
    rw [announces]
    rfl
  | unwatched goesOn => rfl
  | unfinished goesOn is unended =>
    subst is
    rw [List.countP_singleton, hasFailed_roundOf, unended, tries]
    rfl
  | finished goesOn is well =>
    subst is
    rw [List.countP_singleton, hasFailed_roundOf, well, Run.andThen, Journal.only_append, tries,
      announces]
    rfl
  | cancelled goesOn is failed paused noticed =>
    subst is
    subst paused
    rw [List.countP_singleton, hasFailed_roundOf, failed, Run.andThen, Run.andThen,
      Journal.only_append, Journal.only_append, tries, only_isFailureCount_pause, announces]
    rfl
  | @retried _ _ begun tried _ _ _ _ goesOn is failed paused unnoticed later ih =>
    have counted : (roundOf begun tried).hasFailed = true := by rw [hasFailed_roundOf, failed]
    subst is
    subst paused
    rw [List.countP_cons_of_pos counted, ← ih, Run.andThen, Run.andThen, Journal.only_append,
      Journal.only_append, tries, only_isFailureCount_pause]
    rfl

/-- What the counter of restarts says of a course. -/
structure CountsFailures (rounds : List Round) (run : Run (Option SupervisionEnd)) : Prop where
  /-- These are the attempts that have begun. -/
  begun : (run.journal.only isStart).length = rounds.length
  /-- The counter grows by the number of those that have failed. -/
  failures : ∀ metrics : Metrics, (metrics.after run.journal).count .restarts =
    metrics.count .restarts + rounds.countP Round.hasFailed
  /-- That is the number of attempts that have begun after the first one exactly if the last one has
  not failed. -/
  restarts : rounds.countP Round.hasFailed = rounds.length - 1 ↔ ¬FailsLast rounds
  /-- If it has, that is one more. -/
  surplus : FailsLast rounds → rounds.countP Round.hasFailed = rounds.length - 1 + 1
  /-- Supervision is not completed after a failure. -/
  completed : run.value = some .completed → ¬FailsLast rounds
  /-- It is cancelled before the first attempt or after a failure. -/
  cancelled : run.value = some .cancelled → rounds = [] ∨ FailsLast rounds

/-- A course that keeps to the schedule and counts its failures counts them so. -/
theorem Scheduled.countsFailures {watched : Nat} {world : World} {rounds : List Round}
    {run : Run (Option SupervisionEnd)} (scheduled : Scheduled retryDelay watched world rounds run)
    (failures : (run.journal.only isFailureCount).length = rounds.countP Round.hasFailed) :
    CountsFailures rounds run := by
  have fails : ∀ earlier later : Round,
      (∃ finish, earlier.FailsAt finish ∧ later.start = finish + retryDelay) →
        earlier.hasFailed = true := by
    rintro earlier later ⟨finish, failed, _⟩
    exact Round.hasFailed_iff.mpr ⟨finish, failed⟩
  have counted := countP_hasFailed scheduled.spaced fails
  have nonempty : FailsLast rounds → 0 < rounds.length := by
    rintro ⟨last, _, is, _⟩
    exact List.length_pos_of_mem (List.mem_of_getLast? is)
  constructor
  · rw [Journal.only_isStart, Journal.only_isMark, scheduled.marks]
    clear * -
    induction rounds with
    | nil => rfl
    | cons round rest ih =>
      rw [List.flatMap_cons, List.map_append, List.filter_append, List.length_append, ih,
        List.length_cons, Nat.add_comm]
      congr 1
      obtain ⟨start, _ | ending⟩ := round <;> rfl
  · intro metrics
    rw [Metrics.count_restarts_after, failures]
  · constructor
    · intro exact failed
      have some := nonempty failed
      obtain ⟨_, all⟩ | ⟨well, _⟩ := counted
      · omega
      · exact well failed
    · intro well
      obtain ⟨failed, _⟩ | ⟨_, exact⟩ := counted
      · exact absurd failed well
      · exact exact
  · intro failed
    have some := nonempty failed
    obtain ⟨_, all⟩ | ⟨well, _⟩ := counted
    · omega
    · exact absurd failed well
  · rintro completed ⟨last, finish, is, error, failed⟩
    obtain ⟨other, time, again, well⟩ := scheduled.completes.mp completed
    rw [is] at again
    cases again
    rw [Round.SucceedsAt, failed] at well
    cases well
  · intro cancelled
    obtain ⟨none, _⟩ | ⟨last, finish, _, is, failed, _⟩ := scheduled.cancels cancelled
    · exact .inl none
    · exact .inr ⟨last, finish, is, failed⟩

/-- An attempt of any kind in which no failure is counted. -/
structure QuietTrial extends Trial where
  /-- Counting failures is left to the supervisor. -/
  uncounted : run.Lacks isFailureCount

/-- A visit to the broker counts no failures. -/
def QuietTrial.ofVisit (consumer : Consumer) (prefetch : UInt16) (turns : Nat)
    (visit : Broker.Visit) : QuietTrial where
  run := visit.run consumer prefetch turns
  orderly := Broker.Visit.orderly_run consumer prefetch turns visit
  unmarked := Broker.Visit.unmarked_run consumer prefetch turns visit
  uncounted := visit.lacks_run isSilent_isFailureCount rfl
    (fun what counted => by cases what <;> first | rfl | cases counted) (fun _ => rfl) consumer
    prefetch turns

/-- Whatever is attempted, the counter of restarts grows by the number of attempts that fail. That
is the number of attempts begun after the first one unless the last one has failed, and then it is
one more: so it is after a course that is completed or has not begun, and not after one that is
cancelled later. -/
theorem course_countsFailures (retryDelay : Nat) (trials : Nat → Attempt QuietTrial)
    (watched : Nat) (world : World) :
    let runOnce := fun trial : QuietTrial => trial.run
    let run := course retryDelay runOnce trials watched 0 world
    (∃ rounds, Scheduled retryDelay watched world rounds run ∧ CountsFailures rounds run) ∧
      Follows retryDelay (firstAttempts runOnce trials watched 0) world run := by
  intro runOnce run
  obtain ⟨rounds, coursed⟩ := coursed_course runOnce retryDelay trials watched 0 world
  have scheduled : Scheduled retryDelay watched world rounds run :=
    coursed.scheduled (fun trial => trial.orderly) fun trial => trial.unmarked
  have failures := coursed.failures fun trial => trial.uncounted
  exact ⟨⟨rounds, scheduled, scheduled.countsFailures failures⟩, coursed.follows⟩

/-- One attempt, which fails, and a signal in the pause after it: a failure is counted, and nothing
begins again. -/
example :
    let failing : Attempt Trial := ⟨.lasting 5 (some (.error (.streamClosed "usage"))), .signal⟩
    let run := course 30 Trial.run (fun _ => failing) 2 0
      { World.start with planned := some (30, .stop) }
    (Metrics.empty.after run.journal).count .restarts = 1 ∧
      (run.journal.only isStart).length = 1 ∧ run.value = some .cancelled := ⟨rfl, rfl, rfl⟩

end Supervision

end EventLedger

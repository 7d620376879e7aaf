import EventLedger.Proofs.Chronicle
import EventLedger.Proofs.Visit

/-!
# What does not happen

A run lacks a sort of occurrence if nothing of the sort is in its journal, in whatever world it
begins. Loops lack all that belongs to sessions, attempts and the pool.
-/
namespace EventLedger

open Consumer (IsSilent Handling Serving Feed)

/-- Nothing of a sort happens in a run. -/
def Sim.Lacks {α : Type} (sort : Occurrence → Bool) (run : Sim α) : Prop :=
  ∀ world, (run world).journal.only sort = []

namespace Sim.Lacks

variable {α β : Type} {sort : Occurrence → Bool}

/-- A value comes of nothing. -/
theorem pure (value : α) : Lacks sort (Pure.pure value : Sim α) := fun _ => rfl

/-- What two runs lack is lacking in one after the other. -/
theorem bind {first : Sim α} {next : α → Sim β} (before : Lacks sort first)
    (after : ∀ value, Lacks sort (next value)) : Lacks sort (first >>= next) := by
  intro world
  rw [Sim.bind_journal, Journal.only_append, before, after]
  rfl

/-- What is not of a sort may be noted, whether that asks for a stop or not. -/
theorem noted (ignores : Sim.IgnoresSignals sort) {what : Occurrence} (other : sort what = false) :
    Lacks sort (Sim.happen what) := by
  intro world
  rw [Sim.only_happen ignores, List.filter_cons, other]
  rfl

variable (silent : IsSilent sort)
include silent

/-- Waiting lacks every sort that leaves out the signal. -/
theorem wait (millis : Nat) : Lacks sort (Sim.wait millis) :=
  Sim.only_wait silent.ignoresSignals millis

/-- So does a wait that the signal may end. -/
theorem waitUnlessSignalled (millis : Nat) (tie : Sim.Tie) :
    Lacks sort (Sim.waitUnlessSignalled millis tie) :=
  Sim.only_waitUnlessSignalled silent.ignoresSignals millis tie

/-- What is not of a silent sort may happen. -/
theorem happen {what : Occurrence} (other : sort what = false) :
    Lacks sort (Sim.happen what) := noted silent.ignoresSignals other

/-- Records may be logged. -/
theorem log (level : Log.Level) (target message : String) (fields : Log.Fields) :
    Lacks sort (Sim.log level target message fields) := happen silent (silent.ignoresRecords _)

end Sim.Lacks

/-- What of a sort happens in one journal after another happens in the second, if the first lacks
the sort. -/
theorem Journal.split_of_lacks {sort : Occurrence → Bool} {first second before after : Journal}
    {entry : Entry} (none : first.only sort = [])
    (split : first ++ second = before ++ entry :: after)
    (sorted : sort entry.what = true) :
    ∃ middle : Journal, before = first ++ middle ∧ second = middle ++ entry :: after := by
  obtain ⟨middle, more, rest⟩ | ⟨middle, more, rest⟩ := List.append_eq_append_iff.mp split
  · exact ⟨middle, more, rest⟩
  · cases middle with
    | nil => exact ⟨[], by rw [more, List.append_nil, List.append_nil], rest.symm⟩
    | cons other others =>
      obtain ⟨rfl, _⟩ := List.cons.inj rest
      have among : entry.what ∈ first.only sort :=
        List.mem_filter.mpr ⟨List.mem_map_of_mem (by simp [more]), sorted⟩
      rw [none] at among
      cases among

/-- Where a journal is split at the only one of a sort, it is split there. -/
theorem Journal.split_eq_of_lacks {sort : Occurrence → Bool} {first second before after : Journal}
    {entry other : Entry} (none : first.only sort = []) (more : second.only sort = [])
    (split : first ++ other :: second = before ++ entry :: after)
    (sorted : sort entry.what = true) :
    before = first ∧ after = second := by
  obtain ⟨middle, rfl, rest⟩ := Journal.split_of_lacks none split sorted
  cases middle with
  | nil => exact ⟨List.append_nil _, (List.cons.inj rest).2.symm⟩
  | cons _ others =>
    have among : entry.what ∈ second.only sort := by
      refine List.mem_filter.mpr ⟨List.mem_map_of_mem ?_, sorted⟩
      rw [(List.cons.inj rest).2]
      simp
    rw [more] at among
    cases among

/-- A journal that lacks a sort is not split at it. -/
theorem Journal.not_split_of_lacks {sort : Occurrence → Bool} {journal before after : Journal}
    {entry : Entry} (none : journal.only sort = []) (split : journal = before ++ entry :: after) :
    sort entry.what = false := by
  rw [Bool.eq_false_iff]
  intro sorted
  obtain ⟨_, _, rest⟩ :=
    Journal.split_of_lacks none ((List.append_nil journal).trans split) sorted
  simp at rest

/-! ## Loops -/

/-- Whether it can happen in a loop. -/
def Occurrence.isOfLoop : Occurrence → Bool
  | .attemptStarted | .attemptEnded _ | .failureCounted | .poolClosed | .requested _
  | .sessionClosed => false
  | _ => true

namespace Consumer

/-- Storing the event of a message belongs to the loop. -/
theorem isOfLoop_storing (consumer : Consumer) (handling : Handling) :
    ∀ what ∈ handling.storing consumer, what.isOfLoop = true := by
  have deeds : ∀ deed : StoreDeed, deed.occurrence.isOfLoop = true := by
    rintro ((_ | _) | _ | _) <;> rfl
  unfold Handling.storing
  split
  · simp
  · simp only [StoreResponse.occurrences, List.forall_mem_append, List.forall_mem_map]
    refine ⟨⟨⟨by simp [Occurrence.isOfLoop], fun deed _ => deeds deed⟩, ?_⟩,
      fun deed _ => deeds deed⟩
    unfold StoreResponse.answerNoticed
    split
    · simp
    · split <;> simp [Occurrence.isOfLoop]

/-- So does all that is noted of an item. -/
theorem isOfLoop_notes (consumer : Consumer) (serving : Serving) :
    ∀ what ∈ serving.notes consumer, what.isOfLoop = true := by
  unfold Serving.notes Serving.doings
  cases serving.handling? with
  | none => simp [Occurrence.isOfLoop]
  | some handling =>
    have complaint : ∀ what ∈ handling.complaint consumer, what.isOfLoop = true := by
      unfold Handling.complaint
      split <;> simp [Occurrence.isOfLoop]
    simp only [Handling.occurrences, List.forall_mem_cons, List.forall_mem_append]
    exact ⟨rfl, ⟨⟨⟨⟨⟨rfl, by simp⟩, isOfLoop_storing consumer handling⟩, rfl, by simp⟩, rfl,
      by simp⟩, complaint⟩, rfl, by simp⟩

/-- Loops lack what cannot happen in a loop. -/
theorem Feed.lacks_run {sort : Occurrence → Bool}
    (outside : ∀ what, sort what = true → what.isOfLoop = false) (feed : Feed)
    (consumer : Consumer) (turns : Nat) (taken : List EventKind) :
    (feed.run consumer turns taken).Lacks sort := by
  intro world
  obtain ⟨servings, recounts⟩ := feed.run_recounts consumer turns taken world
  have notes : ∀ what, sort what = true → what.isNote = true := by
    intro what sorted
    have other := outside what sorted
    cases what <;> first | rfl | cases other
  rw [Journal.only_of_imp _ notes, recounts.notes, List.filter_eq_nil_iff]
  intro what among sorted
  have ofLoop : what.isOfLoop = true := by
    rw [List.mem_append, List.mem_flatMap] at among
    obtain ⟨serving, _, noted⟩ | parting := among
    · exact isOfLoop_notes consumer serving what noted
    · have within := isWithin_farewell _ what parting
      unfold farewell at parting
      split at parting
      · rw [List.mem_singleton.mp parting]
        rfl
      · cases parting
  rw [outside what sorted] at ofLoop
  cases ofLoop

end Consumer

/-! ## Visits -/

namespace Broker

variable {sort : Occurrence → Bool} (silent : IsSilent sort)
include silent

/-- That a request is granted is only said. -/
theorem lacks_reportGranted (request : Request) : (Session.reportGranted request).Lacks sort := by
  cases request with
  | connect _ | limit _ => exact .pure ()
  | channel | declare _ _ | consume _ _ _ => exact .log silent _ _ _ _

namespace Visit

variable (unclosed : sort .sessionClosed = false) (visit : Visit)
include unclosed

/-- A visit that leaves only waits, says what it could not close, and closes its session. -/
theorem lacks_leave (result : Except WorkerError Unit) : (visit.leave result).Lacks sort := by
  have warn (message : String) (error? : Option String) :
      (Session.warn message error?).Lacks sort := by
    cases error? with
    | none => exact .pure ()
    | some error => exact .log silent _ _ _ _
  have close (left : Session.Unclosed) : (Session.close left).Lacks sort :=
    .bind (warn _ _) fun _ => .bind (warn _ _) fun _ =>
      .bind (.happen silent unclosed) fun _ => .log silent _ _ _ _
  unfold leave
  cases visit.leaving with
  | none => exact .pure none
  | some leaving =>
    exact .bind (.wait silent leaving.delay) fun _ =>
      .bind (close leaving.unclosed) fun _ => .pure _

/-- So does a visit at a request that is refused, or it does nothing. -/
theorem lacks_endRefused (request : Request) (reason : String) :
    (visit.endRefused request reason).Lacks sort := by
  unfold endRefused
  simp only
  split
  · exact .pure _
  · exact visit.lacks_leave silent unclosed _

/-- A visit that consumes lacks what happens neither in its loop nor in leaving. -/
theorem lacks_consume (outside : ∀ what, sort what = true → what.isOfLoop = false)
    (consumer : Consumer) (prefetch : UInt16) (turns : Nat) :
    (visit.consume consumer prefetch turns).Lacks sort := by
  refine .bind (.log silent _ _ _ _) fun _ =>
    .bind (visit.feed.lacks_run outside consumer turns []) fun progress => ?_
  cases progress.result with
  | none => exact .pure none
  | some result => exact visit.lacks_leave silent unclosed result

/-- A set-up lacks what is no request, if what comes after it lacks that. -/
theorem lacks_setUp (unasked : ∀ request, sort (.requested request) = false)
    {goOn : Sim (Option (Except WorkerError Unit))} (lacks : goOn.Lacks sort) (place : Nat)
    (requests : List Request) : (visit.setUp goOn place requests).Lacks sort := by
  induction requests generalizing place with
  | nil => exact lacks
  | cons request rest ih =>
    refine .bind (.happen silent (unasked request)) fun _ => ?_
    unfold answered
    cases (visit.answer place).delay with
    | none => exact .pure none
    | some delay =>
      refine .bind (.wait silent delay) fun _ => ?_
      cases (visit.answer place).refusal with
      | some reason => exact visit.lacks_endRefused silent unclosed request reason
      | none => exact .bind (lacks_reportGranted silent request) fun _ => ih (place + 1)

/-- A visit lacks what happens neither in a set-up nor in a loop nor in leaving. -/
theorem lacks_run (outside : ∀ what, sort what = true → what.isOfLoop = false)
    (unasked : ∀ request, sort (.requested request) = false) (consumer : Consumer)
    (prefetch : UInt16) (turns : Nat) : (visit.run consumer prefetch turns).Lacks sort :=
  visit.lacks_setUp silent unclosed unasked
    (visit.lacks_consume silent unclosed outside consumer prefetch turns) 0 _

end Visit

end Broker

/-! ## Courses -/

namespace Supervision

variable {sort : Occurrence → Bool} (silent : IsSilent sort)
include silent

/-- That supervision ends is only logged. -/
theorem lacks_announce (message : String) (ending : SupervisionEnd) :
    (announce message ending).Lacks sort :=
  .bind (.log silent _ _ _ _) fun _ => .pure _

variable (uncounted : sort .failureCounted = false)
include uncounted

/-- A pause is logged, counted and waited for. -/
theorem lacks_pause (retryDelay : Nat) (error : WorkerError) (tie : Sim.Tie) :
    (pause retryDelay error tie).Lacks sort :=
  .bind (.bind (.log silent _ _ _ _) fun _ => .happen silent uncounted) fun _ =>
    .waitUnlessSignalled silent _ _

/-- A course lacks what is neither in an attempt nor tells of one. -/
theorem lacks_course {α : Type} {runOnce : α → Sim (Option (Except WorkerError Unit))}
    (unmarked : ∀ what, isMark what = true → sort what = false)
    (each : ∀ session, (runOnce session).Lacks sort) (retryDelay : Nat)
    (attempts : Nat → Attempt α) (watched made : Nat) :
    (course retryDelay runOnce attempts watched made).Lacks sort := by
  intro world
  obtain ⟨rounds, coursed⟩ := coursed_course runOnce retryDelay attempts watched made world
  have tries (session : α) : (watchAttempt runOnce session).Lacks sort := by
    refine .bind (.happen silent (unmarked _ rfl)) fun _ => .bind (each session) fun ended => ?_
    cases ended with
    | none => exact .pure none
    | some result => exact .bind (.happen silent (unmarked _ rfl)) fun _ => .pure _
  generalize course retryDelay runOnce attempts watched made world = run at coursed ⊢
  induction coursed with
  | declined stopped => exact lacks_announce silent _ _ _
  | unwatched goesOn => rfl
  | unfinished goesOn is unended =>
    subst is
    exact tries _ _
  | finished goesOn is well =>
    subst is
    rw [Run.andThen, Journal.only_append, tries, lacks_announce silent]
    rfl
  | cancelled goesOn is failed waits noticed =>
    subst is
    subst waits
    rw [Run.andThen, Run.andThen, Journal.only_append, Journal.only_append, tries,
      lacks_pause silent uncounted, lacks_announce silent]
    rfl
  | retried goesOn is failed waits unnoticed later ih =>
    subst is
    subst waits
    rw [Run.andThen, Run.andThen, Journal.only_append, Journal.only_append, tries,
      lacks_pause silent uncounted, ih]
    rfl

end Supervision

end EventLedger

import EventLedger.Proofs.Contact
import EventLedger.Proofs.Schedule
import EventLedger.Proofs.Session
import EventLedger.Service.Watch

/-!
# A service that is watched

A service whose visits are sessions is, as far as it is watched, the service on a list of these
sessions: what has happened is the beginning of what happens then, and all of it if the service has
ended.
-/
namespace EventLedger

open Broker (Visit Session)
open Broker.Visit (Watches IsSession)

namespace Broker.Visit.Watches

variable {β γ : Type}

/-- A run that has ended is watched to its end. -/
theorem of_ended {run : Run (Option β)} {whole : Run β}
    (is : run = ⟨whole.journal, whole.world, some whole.value⟩) : Watches run whole := by
  subst is
  exact ⟨List.prefix_rfl, fun value same => by cases same; rfl⟩

end Broker.Visit.Watches

/-- A run is the beginning of another one that may never end, and the same if it has ended. -/
structure Begins {β : Type} (run whole : Run (Option β)) : Prop where
  /-- What has happened is the beginning. -/
  journal : run.journal <+: whole.journal
  /-- If the run has ended, it is all. -/
  ended : ∀ value, run.value = some value → run = whole

namespace Begins

variable {α β γ : Type}

/-- Every run is its own beginning. -/
theorem refl (run : Run (Option β)) : Begins run run := ⟨List.prefix_rfl, fun _ _ => rfl⟩

/-- What begins another run begins it after the same run as well. -/
theorem andThen {run whole : Run (Option β)} (begins : Begins run whole) (first : Run α) :
    Begins (first.andThen run) (first.andThen whole) where
  journal := (List.prefix_append_right_inj _).mpr begins.journal
  ended := by
    intro value ended
    rw [begins.ended value ended]

/-- What goes on from a value only if there is one goes on from a beginning. -/
theorem bind {first second : Sim (Option β)} {world : World}
    (begins : Begins (first world) (second world)) {rest : Option β → Sim (Option γ)}
    (stays : rest none = pure none) :
    Begins ((first >>= rest) world) ((second >>= rest) world) := by
  rw [Sim.bind_eq_andThen, Sim.bind_eq_andThen]
  generalize first world = run at begins ⊢
  cases is : run.value with
  | none =>
    rw [stays]
    refine ⟨?_, nofun⟩
    simp only [Run.andThen, Sim.pure_apply, List.append_nil]
    exact begins.journal.trans (List.prefix_append _ _)
  | some value =>
    rw [← begins.ended value is, is]
    exact refl _

/-- What begins another run after the same beginning begins it. -/
theorem after {first : Sim α} {world : World} {rest next : α → Sim (Option γ)}
    (begins : Begins (rest (first world).value (first world).world)
      (next (first world).value (first world).world)) :
    Begins ((first >>= rest) world) ((first >>= next) world) := begins.andThen (first world)

/-- The beginning of a run that ends is watched. -/
theorem watches {run : Run (Option β)} {whole : Run β}
    (begins : Begins run ⟨whole.journal, whole.world, some whole.value⟩) : Watches run whole := by
  refine ⟨begins.journal, fun value is => ?_⟩
  have same := begins.ended value is
  subst same
  cases is
  rfl

end Begins

/-- What goes on from a value that is watched, and only then, is the beginning of what goes on from
the value that there is in the end. -/
theorem Broker.Visit.Watches.begins {β γ : Type} {first : Sim (Option β)} {world : World}
    {whole : Run β} (watches : Watches (first world) whole) {rest : Option β → Sim (Option γ)}
    (stays : rest none = pure none) :
    Begins ((first >>= rest) world)
      (whole.andThen (rest (some whole.value) whole.world)) := by
  rw [Sim.bind_eq_andThen]
  generalize first world = run at watches ⊢
  cases is : run.value with
  | none =>
    rw [stays]
    refine ⟨?_, nofun⟩
    simp only [Run.andThen, Sim.pure_apply, List.append_nil]
    exact watches.journal.trans (List.prefix_append _ _)
  | some value =>
    rw [watches.ended value is]
    exact .refl _

namespace Supervision

variable {α β : Type} {runOnce : α → Sim (Option (Except WorkerError Unit))}
variable {each : β → Sim (Except WorkerError Unit)} {world : World}

/-- An attempt is watched as what is attempted is. -/
theorem watches_attempt {visit : α} {session : β}
    (watches : Watches (runOnce visit world) (each session world)) :
    Watches (watchAttempt runOnce visit world) (attempt each session world) := by
  have begins : Begins ((runOnce visit >>= noteEnd) world)
      ((each session world).andThen (noteEnd (some (each session world).value)
        (each session world).world)) := watches.begins rfl
  exact (begins.andThen (Sim.happen .attemptStarted world)).watches

/-- How supervision ends, without the attempts that are left over. -/
def endOf (whole : Run (SupervisionEnd × List (Attempt β))) : Run SupervisionEnd :=
  ⟨whole.journal, whole.world, whole.value.1⟩

/-- What is watched of supervision that is declined is its announcement. -/
theorem endOf_declined (attempts : List (Attempt β)) (world : World) :
    Watches (announce "worker 已停止" .cancelled world) (endOf (declined attempts world)) :=
  .of_ended rfl

/-- So it is where supervision is finished. -/
theorem endOf_finished (attempts : List (Attempt β)) (world : World) :
    Watches (announce "worker 正常退出" .completed world) (endOf (finished attempts world)) :=
  .of_ended rfl

/-- A course whose attempts are watched is the supervision of a list of attempts. -/
theorem Coursed.watches {retryDelay watched made : Nat} {visits : Nat → Attempt α} {tie : Sim.Tie}
    {rounds : List Round} {run : Run (Option SupervisionEnd)}
    (coursed : Coursed retryDelay runOnce visits watched made world rounds run)
    (ties : ∀ number, (visits number).tie = tie) (orderly : ∀ visit, (runOnce visit).Orderly)
    (idle : world.IsIdle)
    (stands : ∀ number (begun : World), begun.IsIdle →
      ∃ session, Watches (runOnce (visits number).session begun) (each session begun)) :
    ∃ sessions : List β, Watches run
      (endOf (supervise retryDelay each (sessions.map (Attempt.mk · tie)) world)) := by
  have attempted (number : Nat) (begun : World) (idle : begun.IsIdle)
      {tried : Run (Option (Except WorkerError Unit))}
      (is : watchAttempt runOnce (visits number).session begun = tried) :
      ∃ session, Watches tried (attempt each session begun) := by
    subst is
    obtain ⟨session, watches⟩ := stands number begun idle
    exact ⟨session, watches_attempt watches⟩
  -- Each round of the course is one attempt of the list; all but the last are watched to their end.
  induction coursed with
  | declined stopped =>
    refine ⟨[], ?_⟩
    rw [supervise_of_stopped retryDelay each _ stopped]
    exact endOf_declined _ _
  | unwatched goesOn => exact ⟨[], List.nil_prefix, nofun⟩
  | unfinished goesOn is unended =>
    obtain ⟨session, watches⟩ := attempted _ _ idle is
    refine ⟨[session], ?_, nofun⟩
    rw [List.map_singleton, supervise_of_goesOn retryDelay each _ _ goesOn]
    exact watches.journal.trans (List.prefix_append _ _)
  | finished goesOn is well =>
    obtain ⟨session, watches⟩ := attempted _ _ idle is
    refine ⟨[session], ?_⟩
    rw [List.map_singleton, supervise_of_goesOn retryDelay each _ _ goesOn,
      watches.ended _ well]
    exact (endOf_finished _ _).andThen _
  | cancelled goesOn is failed waits noticed =>
    obtain ⟨session, watches⟩ := attempted _ _ idle is
    refine ⟨[session], ?_⟩
    rw [List.map_singleton, supervise_of_goesOn retryDelay each _ _ goesOn,
      watches.ended _ failed]
    rw [ties] at waits
    simp only [waits, noticed, ↓reduceIte]
    exact .of_ended rfl
  | retried goesOn is failed waits unnoticed later ih =>
    obtain ⟨session, watches⟩ := attempted _ _ idle is
    have paused : World.IsIdle _ :=
      (idle.of_keepsTime (is ▸ orderly_watchAttempt orderly _ _)).of_keepsTime
        (waits ▸ (plain_pause retryDelay _ _).orderly _)
    obtain ⟨sessions, follows⟩ := ih paused
    refine ⟨session :: sessions, ?_⟩
    rw [List.map_cons, supervise_of_goesOn retryDelay each _ _ goesOn,
      watches.ended _ failed]
    rw [ties] at waits
    simp only [waits, unnoticed, Bool.false_eq_true, ↓reduceIte]
    exact (follows.andThen _).andThen _

end Supervision

namespace Service

variable {σ : Type} (settings : Settings) (surroundings : Surroundings σ) {outlook : Outlook}
variable {world : World}

/-- Beginning to be observed keeps time. -/
theorem orderly_startObservation (refusal : Option String) :
    (startObservation settings refusal).Orderly := by
  have serve : (serveMetrics settings.observability refusal).Orderly := by
    refine .ite (.pure _) ?_
    cases refusal with
    | some reason => exact .pure _
    | none => exact .bind (.log _ _ _ _) fun _ => .pure _
  exact .bind (.log _ _ _ _) fun _ => serve

/-- Reaching the database keeps time. -/
theorem orderly_reachDatabase : (reachDatabase settings surroundings).Orderly := by
  refine .bind (.log _ _ _ _) fun _ => .bind Database.Pool.orderly_connect fun made => ?_
  obtain ⟨result, later⟩ := made
  cases result with
  | error failure => exact .pure _
  | ok pool => exact .bind (.log _ _ _ _) fun _ => .pure _

/-- The visits of an outlook are sessions, and the signal goes first. -/
structure Outlook.AreSessions (outlook : Outlook) : Prop where
  /-- What is visited. -/
  session : ∀ number, ∃ refusedAt, (outlook.visits number).session.IsSession 0 refusedAt
  /-- What goes first. -/
  tie : ∀ number, (outlook.visits number).tie = .signal

/-- Supervision is watched. -/
theorem watches_supervision (areSessions : outlook.AreSessions) (idle : world.IsIdle) :
    ∃ sessions, Watches (supervision settings outlook world)
      (Supervision.endOf (Supervision.supervise settings.worker.retryDelayMillis.toNat
        (Session.run settings.consumer settings.broker.prefetch) (attempts sessions) world)) := by
  have orderly (visit : Visit) :
      (visit.run settings.consumer settings.broker.prefetch outlook.turns).Orderly :=
    Visit.orderly_run settings.consumer settings.broker.prefetch outlook.turns visit
  obtain ⟨rounds, coursed⟩ := Supervision.coursed_course
    (Visit.run settings.consumer settings.broker.prefetch outlook.turns)
    settings.worker.retryDelayMillis.toNat outlook.visits outlook.watched 0 world
  refine coursed.watches areSessions.tie orderly idle fun number begun idle => ?_
  obtain ⟨refusedAt, isSession⟩ := areSessions.session number
  obtain ⟨wakes, watches⟩ := isSession.watches_run idle settings.consumer settings.broker.prefetch
    outlook.turns
  exact ⟨_, watches⟩

/-- What is watched of consuming is its beginning. -/
theorem begins_watchConsume (closing : Option Nat) (areSessions : outlook.AreSessions)
    (idle : world.IsIdle) : ∃ sessions,
    Begins (watchConsume settings closing outlook world)
      (consume settings closing sessions world) := by
  obtain ⟨sessions, watches⟩ := watches_supervision settings areSessions idle
  exact ⟨sessions, watches.begins rfl⟩

/-- What is watched of the work is its beginning. -/
theorem begins_watchWork (areSessions : outlook.AreSessions) (idle : world.IsIdle) :
    ∃ sessions, Begins (watchWork settings surroundings outlook world)
      (work settings surroundings sessions world) := by
  have later := idle.of_keepsTime (orderly_reachDatabase settings surroundings world)
  obtain ⟨sessions, begins⟩ :=
    begins_watchConsume settings surroundings.closing areSessions later
  refine ⟨sessions, ?_⟩
  rw [watchWork, work]
  apply Begins.after
  cases (reachDatabase settings surroundings world).value with
  | error failure => exact .refl _
  | ok _ => exact begins.bind rfl

/-- What is watched of a service whose visits are sessions is the beginning of the service on a list
of these sessions. -/
theorem begins_watchRun (areSessions : outlook.AreSessions) (idle : world.IsIdle) :
    ∃ sessions, Begins (watchRun settings surroundings outlook world)
      (run settings surroundings sessions world) := by
  have later := idle.of_keepsTime
    (orderly_startObservation settings surroundings.metricsRefusal world)
  obtain ⟨sessions, begins⟩ := begins_watchWork settings surroundings areSessions later
  refine ⟨sessions, ?_⟩
  rw [watchRun, run]
  apply Begins.after
  cases (startObservation settings surroundings.metricsRefusal world).value with
  | error failure => exact .refl _
  | ok _ => exact begins.bind rfl

end Service

end EventLedger

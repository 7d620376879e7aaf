import EventLedger.Proofs.Rest
import EventLedger.Proofs.Restarts
import EventLedger.Proofs.Watching

/-!
# The gates of the service

The service goes through one gate after another: its settings, its observation, its database. What
lies behind a gate does not happen before the gate has been passed, and when supervision has ended,
the pool is closed with nothing left open; when that has been done, the service ends well. The ways
on which a run can go are those of `Goes`.
-/
namespace EventLedger.Service

open Broker (Visit)
open Consumer (IsSilent)
open Database (Pool)

variable {σ : Type}

/-! ## Sorts -/

/-- Whether it reaches beyond the service: it is no record and says nothing of the signal. -/
def isOutward : Occurrence → Bool
  | .logged _ | .signalled _ _ => false
  | _ => true

/-- Whether it has to do with reaching the database. -/
def isDatabaseContact : Occurrence → Bool
  | .executed _ | .replied _ => true
  | .logged record => record.span = some Pool.connecting
  | _ => false

/-- Whether it belongs to what comes after the database has been reached: sessions and what is done
in them, attempts, and the end of the pool. -/
def isLater : Occurrence → Bool
  | .logged _ | .signalled _ _ | .executed _ | .replied _ | .spanClosed _ => false
  | _ => true

/-- Whether the pool is closed. -/
def isClosing : Occurrence → Bool
  | .poolClosed => true
  | _ => false

/-- Waiting, logging and asking for a stop reach nothing outside. -/
theorem isSilent_isOutward : IsSilent isOutward := ⟨fun _ _ => rfl, fun _ => rfl⟩

/-- What comes after the database has been reached is remote from it. -/
theorem isRemote_isLater : IsRemote isLater :=
  ⟨⟨fun _ _ => rfl, fun _ => rfl⟩, fun _ => rfl, fun _ => rfl, fun _ => rfl⟩

/-- The end of the pool is remote from reaching the database. -/
theorem isRemote_isClosing : IsRemote isClosing :=
  ⟨⟨fun _ _ => rfl, fun _ => rfl⟩, fun _ => rfl, fun _ => rfl, fun _ => rfl⟩

/-- Opening something is remote from reaching the database. -/
theorem isRemote_isOpening : IsRemote isOpening :=
  ⟨isSilent_isOpening, fun _ => rfl, fun _ => rfl, fun _ => rfl⟩

/-! ## Observation -/

/-- The service can be observed: the metrics can be served, if that is wanted. -/
def Observes (settings : Settings) (surroundings : Surroundings σ) : Prop :=
  settings.observability.metricsEnabled = true → surroundings.metricsRefusal = none

/-- What is logged when observation begins. -/
def observationRecord (settings : Settings) : Log.Record where
  level := .info
  target := observationTarget
  message := "Observability initialized"
  fields := [("service", settings.serviceName), ("log_level", settings.observability.logLevel),
    ("metrics_enabled", Log.boolText settings.observability.metricsEnabled)]
  span := none

variable (settings : Settings) (surroundings : Surroundings σ) (outlook : Outlook)

/-- The beginning of observation. -/
abbrev observation : Sim (Except Failure Unit) :=
  startObservation settings surroundings.metricsRefusal

variable {settings surroundings} in
/-- If the service can be observed, that begins well. -/
theorem observation_value_of_observes (observes : Observes settings surroundings) (world : World) :
    (observation settings surroundings world).value = .ok () := by
  unfold observation startObservation serveMetrics
  cases wanted : settings.observability.metricsEnabled with
  | false => rfl
  | true =>
    rw [observes wanted]
    rfl

variable {settings surroundings} in
/-- If it cannot be observed, the metrics are wanted and cannot be served for a reason. -/
theorem observation_value_of_not_observes (blind : ¬Observes settings surroundings) :
    ∃ reason, surroundings.metricsRefusal = some reason ∧
      ∀ world, (observation settings surroundings world).value = .error (.unserved reason) := by
  rw [Observes, Classical.not_imp] at blind
  obtain ⟨wanted, refused⟩ := blind
  obtain ⟨reason, is⟩ := Option.ne_none_iff_exists'.mp refused
  refine ⟨reason, is, fun world => ?_⟩
  unfold observation startObservation serveMetrics
  rw [wanted, is]
  rfl

/-- Observation only logs, outside of every span. -/
theorem lacks_observation {sort : Occurrence → Bool} (ignores : Sim.IgnoresSignals sort)
    (unsaid : ∀ record, record.span = none → sort (.logged record) = false) :
    (observation settings surroundings).Lacks sort := by
  have serve : (serveMetrics settings.observability surroundings.metricsRefusal).Lacks sort := by
    unfold serveMetrics
    split
    · exact .pure _
    · cases surroundings.metricsRefusal with
      | some reason => exact .pure _
      | none => exact .bind (.noted ignores (unsaid _ rfl)) fun _ => .pure _
  exact .bind (.noted ignores (unsaid _ rfl)) fun _ => serve

/-- That observation begins is logged. -/
theorem observationRecord_mem_logs (world : World) :
    observationRecord settings ∈ (observation settings surroundings world).journal.logs := by
  have noted : [⟨world.now, .logged (observationRecord settings)⟩].Sublist
      (observation settings surroundings world).journal :=
    (Sim.happen_noted _ world).trans (List.sublist_append_left _ _)
  exact List.mem_filterMap.mpr ⟨_, List.singleton_sublist.mp noted, rfl⟩

/-! ## The database -/

/-- The database of the service is reached. -/
abbrev Reaches (way pace : Nat) : Prop :=
  Pool.Reaches surroundings.peer surroundings.database surroundings.network surroundings.horizon
    settings.database way pace

/-- The attempt to make the pool of the service. -/
abbrev connection : Sim (Except Pool.Failure Pool × σ) :=
  Pool.connect surroundings.peer surroundings.database surroundings.network surroundings.horizon
    settings.database

/-- The first contact with the database, as it is noted: reaching it begins, the ping is sent and
answered with success. -/
def contact (begun way pace : Nat) : Journal :=
  [⟨begun, .logged Pool.announcement⟩, ⟨begun + way, .executed .ping⟩,
    ⟨begun + way + pace, .replied .done⟩]

/-- Whether the service goes on when it has tried to reach its database. -/
def reached : Except Pool.Failure Pool × σ → Except Failure Unit
  | (.error failure, _) => .error (.ofPool failure)
  | (.ok _, _) => .ok ()

/-- Whether the service goes on depends on whether there is a pool. -/
theorem reachDatabase_value (world : World) :
    (reachDatabase settings surroundings world).value =
      reached (connection settings surroundings (reportStart settings world).world).value := by
  unfold reachDatabase connection
  rw [Sim.bind_value, Sim.bind_value]
  generalize (Pool.connect _ _ _ _ _ _ : Run _) = made
  obtain ⟨journal, after, result, later⟩ := made
  cases result <;> rfl

/-- What happens when the pool is made happens when the database is reached. -/
theorem connection_sublist (world : World) :
    (connection settings surroundings (reportStart settings world).world).journal.Sublist
      (reachDatabase settings surroundings world).journal := by
  unfold reachDatabase
  rw [Sim.bind_journal, Sim.bind_journal]
  exact (List.sublist_append_left _ _).trans (List.sublist_append_right _ _)

variable {settings surroundings} in
/-- A service whose database is reached goes on, and the contact is noted. -/
theorem reachDatabase_of_reaches {way pace : Nat} (reaches : Reaches settings surroundings way pace)
    (world : World) :
    (reachDatabase settings surroundings world).value = .ok () ∧
      ∃ begun, (contact begun way pace).Sublist
        (reachDatabase settings surroundings world).journal := by
  obtain ⟨made, noted⟩ := Pool.connect_done reaches (reportStart settings world).world
  refine ⟨?_, _, noted.trans (connection_sublist settings surroundings world)⟩
  rw [reachDatabase_value]
  generalize (connection settings surroundings _).value = result at made
  obtain ⟨result, later⟩ := result
  cases made
  rfl

variable {settings surroundings} in
/-- A service whose database is not reached goes on no further, for what this ends with. -/
theorem reachDatabase_of_not_reaches
    (unreached : ∀ way pace, ¬Reaches settings surroundings way pace)
    (world : World) : ∃ begun failure,
    (connection settings surroundings begun).value.1 = .error failure ∧
      (reachDatabase settings surroundings world).value = .error (.ofPool failure) := by
  obtain ⟨failure, failed⟩ := Pool.connect_fails unreached (reportStart settings world).world
  refine ⟨_, failure, failed, ?_⟩
  rw [reachDatabase_value]
  generalize (connection settings surroundings _).value = result at failed
  obtain ⟨result, later⟩ := result
  cases failed
  rfl

/-- Reaching the database lacks what is remote from it. -/
theorem lacks_reachDatabase {sort : Occurrence → Bool} (remote : IsRemote sort) :
    (reachDatabase settings surroundings).Lacks sort := by
  refine .bind (.log remote.toIsSilent _ _ _ _) fun _ =>
    .bind (Pool.lacks_connect remote) fun made => ?_
  obtain ⟨result, later⟩ := made
  cases result with
  | error error => exact .pure _
  | ok pool => exact .bind (.log remote.toIsSilent _ _ _ _) fun _ => .pure _

/-! ## The ways of a run -/

/-- What comes before supervision: observation begins, and the database is reached. -/
def approach : Sim (Except Failure Unit) := do
  let _ ← observation settings surroundings
  reachDatabase settings surroundings

/-- What comes of the approach is what comes of reaching the database. -/
theorem approach_value (world : World) :
    (approach settings surroundings world).value =
      (reachDatabase settings surroundings (observation settings surroundings world).world).value :=
  rfl

/-- What comes after supervision, if it has ended. -/
def parting (closing : Option Nat) : Option SupervisionEnd → Sim (Option (Except Failure Unit))
  | none => pure none
  | some ending => shutDown closing ending >>= fun ended => endObservation (ended.map .ok)

/-- The ways on which a run with settings can go. -/
inductive Goes (world : World) : Run (Option (Except Failure Unit)) → Prop
  /-- The service cannot be observed. -/
  | unobserved (blind : ¬Observes settings surroundings) {reason : String}
    (refused : surroundings.metricsRefusal = some reason) :
    Goes world
      ((observation settings surroundings >>= fun _ =>
        pure (some (.error (.unserved reason)))) world)
  /-- Its database is not reached. -/
  | unreached (observes : Observes settings surroundings)
    (fails : ∀ way pace, ¬Reaches settings surroundings way pace) {begun : World}
    {failure : Pool.Failure}
    (is : (connection settings surroundings begun).value.1 = .error failure) :
    Goes world
      ((approach settings surroundings >>= fun _ =>
        endObservation (some (.error (.ofPool failure)))) world)
  /-- It supervises. -/
  | supervised (observes : Observes settings surroundings) {way pace : Nat}
    (reaches : Reaches settings surroundings way pace) :
    Goes world
      ((approach settings surroundings >>= fun _ =>
        supervision settings outlook >>= parting surroundings.closing) world)

/-- What comes after the database has been tried. -/
def afterApproach : Except Failure Unit → Sim (Option (Except Failure Unit))
  | .error failure => endObservation (some (.error failure))
  | .ok () => supervision settings outlook >>= parting surroundings.closing

/-- What comes after supervision comes of the work as well. -/
theorem watchConsume_bind (closing : Option Nat) :
    (watchConsume settings closing outlook >>= fun ended => endObservation (ended.map .ok)) =
      supervision settings outlook >>= parting closing := by
  rw [watchConsume, Sim.bind_assoc]
  congr 1
  funext ending?
  cases ending? with
  | none => rfl
  | some ending => rfl

/-- The work begins with the database, and observation ends when it has been done. -/
theorem watchWork_bind :
    watchWork settings surroundings outlook >>= endObservation =
      reachDatabase settings surroundings >>= afterApproach settings surroundings outlook := by
  rw [watchWork, Sim.bind_assoc]
  congr 1
  funext result
  cases result with
  | error failure => rfl
  | ok _ =>
    exact (Sim.bind_assoc _ _ _).trans (watchConsume_bind settings outlook surroundings.closing)

variable {settings surroundings}

/-- A service that is observed tries to reach its database. -/
theorem watchRun_of_observes (observes : Observes settings surroundings) (world : World) :
    watchRun settings surroundings outlook world =
      (approach settings surroundings >>= afterApproach settings surroundings outlook) world := by
  rw [watchRun, Sim.bind_of_value (observation_value_of_observes observes world), approach,
    Sim.bind_assoc, ← watchWork_bind]

/-- A service that cannot be observed ends so, for the reason that there is. -/
theorem watchRun_of_not_observes (blind : ¬Observes settings surroundings) {reason : String}
    (refused : surroundings.metricsRefusal = some reason) (world : World) :
    watchRun settings surroundings outlook world =
      (observation settings surroundings >>= fun _ =>
        pure (some (.error (.unserved reason)))) world := by
  obtain ⟨other, is, value⟩ := observation_value_of_not_observes blind
  obtain rfl : reason = other := Option.some.inj (refused.symm.trans is)
  rw [watchRun, Sim.bind_of_value (value world)]

/-- A service that fails to reach its database ends with that failure. -/
theorem watchRun_of_error (observes : Observes settings surroundings) {world : World}
    {failure : Failure} (fails : (approach settings surroundings world).value = .error failure) :
    watchRun settings surroundings outlook world =
      (approach settings surroundings >>= fun _ => endObservation (some (.error failure)))
        world := by
  rw [watchRun_of_observes outlook observes, Sim.bind_of_value fails, afterApproach]

/-- A service that reaches its database supervises. -/
theorem watchRun_of_ok (observes : Observes settings surroundings) {world : World}
    (reached : (approach settings surroundings world).value = .ok ()) :
    watchRun settings surroundings outlook world =
      (approach settings surroundings >>= fun _ =>
        supervision settings outlook >>= parting surroundings.closing) world := by
  rw [watchRun_of_observes outlook observes, Sim.bind_of_value reached, afterApproach]

/-- A run with settings goes on one of the ways. -/
theorem goes_watchRun (world : World) :
    Goes settings surroundings outlook world (watchRun settings surroundings outlook world) := by
  have approached := approach_value settings surroundings world
  by_cases observes : Observes settings surroundings
  · by_cases fails : ∀ way pace, ¬Reaches settings surroundings way pace
    · obtain ⟨begun, failure, is, unreached⟩ := reachDatabase_of_not_reaches fails _
      rw [watchRun_of_error outlook observes (approached.trans unreached)]
      exact .unreached observes fails is
    · simp only [not_forall, not_not] at fails
      obtain ⟨way, pace, reaches⟩ := fails
      obtain ⟨reached, _⟩ := reachDatabase_of_reaches reaches _
      rw [watchRun_of_ok outlook observes (approached.trans reached)]
      exact .supervised observes reaches
  · obtain ⟨reason, refused, _⟩ := observation_value_of_not_observes observes
    rw [watchRun_of_not_observes outlook observes refused]
    exact .unobserved observes refused

/-! ## What is lacking -/

variable (settings surroundings)

/-- Supervision does not close the pool. -/
theorem lacks_supervision : (supervision settings outlook).Lacks isClosing := by
  refine Supervision.lacks_course isRemote_isClosing.toIsSilent rfl (fun what marks => ?_)
    (fun visit => visit.lacks_run isRemote_isClosing.toIsSilent rfl (fun what closing => ?_)
      (fun _ => rfl) _ _ _) _ _ _ _
  · cases what <;> first | rfl | cases marks
  · cases what <;> first | rfl | cases closing

/-- The approach lacks what is remote from the database. -/
theorem lacks_approach {sort : Occurrence → Bool} (remote : IsRemote sort) :
    (approach settings surroundings).Lacks sort :=
  .bind (lacks_observation settings surroundings remote.ignoresSignals fun record _ =>
    remote.ignoresRecords record) fun _ => lacks_reachDatabase settings surroundings remote

/-- The end of observation is only logged. -/
theorem lacks_endObservation {sort : Occurrence → Bool} (silent : IsSilent sort)
    (ended : Option (Except Failure Unit)) : (endObservation ended).Lacks sort := by
  cases ended with
  | none => exact .pure none
  | some result => exact .bind (.log silent _ _ _ _) fun _ => .pure _

/-- The end of supervision is only logged. -/
theorem lacks_reportEnd {sort : Occurrence → Bool} (silent : IsSilent sort)
    (ending : SupervisionEnd) : (reportEnd ending).Lacks sort := by
  cases ending <;> exact .log silent _ _ _ _

/-- What comes after the pool has begun to close, if that takes an end. -/
def farewell : (closing : Option Nat) → Sim (Option (Except Failure Unit))
  | none => pure none
  | some millis => do
    Sim.wait millis
    Sim.log .info Pool.logTarget "数据库连接池已关闭" []
    Sim.log .info logTarget "Service shutdown complete" []
    endObservation (some (.ok ()))

/-- A service whose pool gets closed ends well. -/
theorem farewell_value (closing : Option Nat) (world : World) :
    (farewell closing world).value = closing.map fun _ => .ok () := by
  cases closing <;> rfl

/-- What comes after the pool has begun to close is only logged. -/
theorem lacks_farewell {sort : Occurrence → Bool} (silent : IsSilent sort) (closing : Option Nat) :
    (farewell closing).Lacks sort := by
  cases closing with
  | none => exact .pure none
  | some millis =>
    exact .bind (.wait silent millis) fun _ => .bind (.log silent _ _ _ _) fun _ =>
      .bind (.log silent _ _ _ _) fun _ => lacks_endObservation silent _

/-- When supervision has ended, that is said, and the pool is closed. -/
theorem parting_some (closing : Option Nat) (ending : SupervisionEnd) :
    parting closing (some ending) =
      reportEnd ending >>= fun _ => Sim.happen .poolClosed >>= fun _ => farewell closing := by
  cases closing with
  | none =>
    simp only [parting, shutDown, Pool.close, Sim.bind_assoc]
    rfl
  | some millis =>
    simp only [parting, shutDown, Pool.close, Pool.closeAfter, Sim.bind_assoc, Sim.pure_bind,
      Option.map_some]
    rfl

/-- So the pool is closed between the end of supervision and the farewell. -/
theorem parting_journal (closing : Option Nat) (ending : SupervisionEnd) (world : World) :
    let reported := reportEnd ending world
    (parting closing (some ending) world).journal = reported.journal ++
      ⟨reported.world.now, .poolClosed⟩ :: (farewell closing reported.world).journal := by
  rw [parting_some]
  rfl

/-- What comes of the service is what comes of the farewell. -/
theorem parting_value (closing : Option Nat) (ending : Option SupervisionEnd) (world : World) :
    (parting closing ending world).value = ending.bind fun _ => closing.map fun _ => .ok () := by
  cases ending with
  | none => rfl
  | some ending =>
    rw [parting_some]
    exact farewell_value closing _

/-- What happens until the pool is closed. -/
def untilClosed (ending : SupervisionEnd) (world : World) : Journal :=
  let approached := approach settings surroundings world
  let between := supervision settings outlook approached.world
  approached.journal ++ between.journal ++ (reportEnd ending between.world).journal

/-- Until then it is not closed. -/
theorem untilClosed_lacks (ending : SupervisionEnd) (world : World) :
    (untilClosed settings surroundings outlook ending world).only isClosing = [] := by
  rw [untilClosed, Journal.only_append, Journal.only_append,
    lacks_approach settings surroundings isRemote_isClosing, lacks_supervision,
    lacks_reportEnd isRemote_isClosing.toIsSilent]
  rfl

variable {settings surroundings outlook} in
/-- When supervision has ended, nothing is open. -/
theorem untilClosed_atRest {ending : SupervisionEnd} {world : World}
    (is : (supervision settings outlook
      (approach settings surroundings world).world).value = some ending) :
    AtRest (untilClosed settings surroundings outlook ending world) := by
  have approached : AtRest (approach settings surroundings world).journal :=
    .of_lacks (lacks_approach settings surroundings isRemote_isOpening world)
  have between : AtRest
      (supervision settings outlook (approach settings surroundings world).world).journal :=
    Supervision.atRest_course (Option.isSome_iff_exists.mpr ⟨ending, is⟩)
  exact (approached.append between).append (.of_lacks (lacks_reportEnd isSilent_isOpening _ _))

/-- The visits are attempted by the schedule, and those that fail are counted. -/
theorem counts_supervision (world : World) : ∃ rounds,
    Supervision.Scheduled settings.worker.retryDelayMillis.toNat outlook.watched world rounds
      (supervision settings outlook world) ∧
    Supervision.CountsFailures rounds (supervision settings outlook world) := by
  let quiet := Supervision.QuietTrial.ofVisit settings.consumer settings.broker.prefetch
    outlook.turns
  obtain ⟨rounds, coursed⟩ := Supervision.coursed_course
    (Visit.run settings.consumer settings.broker.prefetch outlook.turns)
    settings.worker.retryDelayMillis.toNat outlook.visits outlook.watched 0 world
  have scheduled := coursed.scheduled (fun visit => (quiet visit).orderly) fun visit =>
    (quiet visit).unmarked
  have failures := coursed.failures fun visit => (quiet visit).uncounted
  exact ⟨rounds, scheduled, scheduled.countsFailures failures⟩

/-! ## What the ways have in common -/

/-- What becomes of a service that supervises its visits, after what came before and with what comes
of supervision. -/
structure Supervises (before : Run (Except Failure Unit)) (between : Run (Option SupervisionEnd))
    (run : Run (Option (Except Failure Unit))) : Prop where
  /-- Supervision comes next. -/
  journal : before.journal ++ between.journal <+: run.journal
  /-- The visits are attempted by the schedule, and those that fail are counted. -/
  course : ∃ rounds,
    Supervision.Scheduled settings.worker.retryDelayMillis.toNat outlook.watched before.world rounds
      between ∧
    Supervision.CountsFailures rounds between
  /-- The pool is closed if supervision has ended, and only then. -/
  closes : .poolClosed ∈ run.journal.map Entry.what ↔ between.value.isSome
  /-- The service ends, and well, exactly if supervision has ended and the pool gets closed. -/
  ends : ∀ value, run.value = some value ↔
    value = .ok () ∧ between.value.isSome ∧ surroundings.closing.isSome

/-- What the service does whose database has been reached. -/
def supervising (world : World) : Run (Option (Except Failure Unit)) :=
  (approach settings surroundings >>= fun _ =>
    supervision settings outlook >>= parting surroundings.closing) world

/-- It closes its pool if supervision has ended, and only then. -/
theorem closes_supervising (world : World) :
    .poolClosed ∈ (supervising settings surroundings outlook world).journal.map Entry.what ↔
      (supervision settings outlook
        (approach settings surroundings world).world).value.isSome := by
  have approached := lacks_approach settings surroundings isRemote_isClosing world
  rw [supervising, Sim.bind_journal, Sim.bind_journal]
  generalize (approach settings surroundings world).world = begun
  have between := lacks_supervision settings outlook begun
  cases is : (supervision settings outlook begun).value with
  | none =>
    have lacks : Journal.only isClosing ((approach settings surroundings world).journal ++
        ((supervision settings outlook begun).journal ++ [])) = [] := by
      rw [Journal.only_append, Journal.only_append, approached, between]
      rfl
    refine ⟨fun closed => ?_, nofun⟩
    cases Journal.forall_of_only_eq_nil lacks _ closed
  | some ending =>
    rw [parting_journal]
    simp

/-- It supervises its visits, closes its pool and ends well. -/
theorem supervises_supervising (world : World) :
    let before := approach settings surroundings world
    Supervises settings surroundings outlook before (supervision settings outlook before.world)
      (supervising settings surroundings outlook world) := by
  constructor
  case journal =>
    rw [supervising, Sim.bind_journal, Sim.bind_journal, ← List.append_assoc]
    exact List.prefix_append _ _
  case course => exact counts_supervision settings outlook _
  case closes => exact closes_supervising settings surroundings outlook world
  case ends =>
    intro value
    rw [supervising, Sim.bind_value, Sim.bind_value, parting_value]
    cases (supervision settings outlook (approach settings surroundings world).world).value with
    | none => simp
    | some ending => cases surroundings.closing <;> simp [eq_comm]

namespace Goes

variable {settings surroundings outlook}
variable {world : World} {run : Run (Option (Except Failure Unit))}
variable (goes : Goes settings surroundings outlook world run)
include goes

/-- Whatever way a run goes, it begins with observation. -/
theorem begins : ∃ rest : Journal,
    run.journal = (observation settings surroundings world).journal ++ rest ∧
      (¬Observes settings surroundings → rest = []) := by
  cases goes with
  | unobserved blind refused => exact ⟨_, rfl, fun _ => rfl⟩
  | unreached observes fails is =>
    exact ⟨_, List.append_assoc _ _ _, fun blind => absurd observes blind⟩
  | supervised observes reaches =>
    exact ⟨_, List.append_assoc _ _ _, fun blind => absurd observes blind⟩

/-- Where the database is not reached, nothing comes that is remote from it. -/
theorem lacks_of_not_reached
    (unreached : Observes settings surroundings →
      ∀ way pace, ¬Reaches settings surroundings way pace)
    {sort : Occurrence → Bool} (remote : IsRemote sort) : run.journal.only sort = [] := by
  cases goes with
  | unobserved blind refused =>
    have lacks := lacks_observation settings surroundings remote.ignoresSignals fun record _ =>
      remote.ignoresRecords record
    exact lacks.bind (fun _ => .pure _) world
  | unreached observes fails is =>
    have lacks := lacks_approach settings surroundings remote
    exact lacks.bind (fun _ => lacks_endObservation remote.toIsSilent _) world
  | supervised observes reaches => exact absurd reaches (unreached observes _ _)

/-- What is remote from the database happens only where the database is reached. -/
theorem reaches_of_remote {sort : Occurrence → Bool} (remote : IsRemote sort)
    {before after : Journal} {entry : Entry} (split : run.journal = before ++ entry :: after)
    (sorted : sort entry.what = true) :
    Observes settings surroundings ∧ ∃ way pace, Reaches settings surroundings way pace := by
  by_contra unreached
  have fails (observes : Observes settings surroundings) (way pace : Nat) :
      ¬Reaches settings surroundings way pace :=
    fun reaches => unreached ⟨observes, way, pace, reaches⟩
  have lacks : run.journal.only sort = [] := goes.lacks_of_not_reached fails remote
  rw [Journal.not_split_of_lacks lacks split] at sorted
  cases sorted

/-- The database is contacted after observation has begun. -/
theorem database {before after : Journal} {entry : Entry}
    (split : run.journal = before ++ entry :: after)
    (contact : isDatabaseContact entry.what = true) :
    Observes settings surroundings ∧ observationRecord settings ∈ before.logs := by
  obtain ⟨rest, whole, alone⟩ := goes.begins
  have lacks : (observation settings surroundings).Lacks isDatabaseContact :=
    lacks_observation settings surroundings (fun _ _ => rfl) fun record outside => by
      simp [isDatabaseContact, outside]
  rw [whole] at split
  obtain ⟨middle, rfl, more⟩ := Journal.split_of_lacks (lacks world) split contact
  refine ⟨by_contra fun blind => ?_, ?_⟩
  · rw [alone blind] at more
    simp at more
  · rw [Journal.logs, List.filterMap_append]
    exact List.mem_append_left _ (observationRecord_mem_logs settings surroundings world)

/-- What comes after the database comes after it has been reached. -/
theorem broker {before after : Journal} {entry : Entry}
    (split : run.journal = before ++ entry :: after) (later : isLater entry.what = true) :
    Observes settings surroundings ∧ ∃ way pace begun, Reaches settings surroundings way pace ∧
      (contact begun way pace).Sublist before := by
  obtain ⟨observed, _, _, found⟩ := goes.reaches_of_remote isRemote_isLater split later
  cases goes with
  | unobserved blind refused => exact absurd observed blind
  | unreached _ fails is => exact absurd found (fails _ _)
  | supervised observes reaches =>
    have approached := lacks_approach settings surroundings isRemote_isLater world
    obtain ⟨middle, rfl, _⟩ := Journal.split_of_lacks approached split later
    obtain ⟨_, begun, noted⟩ :=
      reachDatabase_of_reaches reaches (observation settings surroundings world).world
    refine ⟨observes, _, _, begun, reaches, ?_⟩
    exact (noted.trans (List.sublist_append_right _ _)).trans (List.sublist_append_left _ _)

/-- A run that closes the pool has supervised its visits to the end. -/
theorem closed {before after : Journal} {time : Nat}
    (split : run.journal = before ++ ⟨time, .poolClosed⟩ :: after) :
    run.value = surroundings.closing.map (fun _ => .ok ()) ∧ AtRest before ∧
      before.only isClosing = [] ∧ after.only isOutward = [] := by
  obtain ⟨observed, _, _, found⟩ := goes.reaches_of_remote isRemote_isClosing split rfl
  cases goes with
  | unobserved blind refused => exact absurd observed blind
  | unreached _ fails is => exact absurd found (fails _ _)
  | supervised observes reaches =>
    have approached := lacks_approach settings surroundings isRemote_isClosing world
    let begun := (approach settings surroundings world).world
    rw [Sim.bind_journal, Sim.bind_journal] at split
    cases is : (supervision settings outlook begun).value with
    | none =>
      have lacks : Journal.only isClosing ((approach settings surroundings world).journal ++
          (supervision settings outlook begun).journal) = [] := by
        rw [Journal.only_append, approached, lacks_supervision]
        rfl
      -- Supervision is not watched to its end, and no other part closes the pool.
      rw [is] at split
      cases Journal.not_split_of_lacks lacks ((List.append_nil _ ▸ split :))
    | some ending =>
      rw [is, parting_journal, ← List.append_assoc, ← List.append_assoc] at split
      have silent := isRemote_isClosing.toIsSilent
      obtain ⟨rfl, rfl⟩ := Journal.split_eq_of_lacks
        (untilClosed_lacks settings surroundings outlook ending world)
        (lacks_farewell silent _ _) split rfl
      refine ⟨?_, untilClosed_atRest is, untilClosed_lacks _ _ _ _ _,
        lacks_farewell isSilent_isOutward _ _⟩
      rw [Sim.bind_value, Sim.bind_value, parting_value, is]
      rfl

/-- A service that cannot be observed ends so. -/
theorem value_of_unobserved (blind : ¬Observes settings surroundings) :
    (∃ reason, surroundings.metricsRefusal = some reason ∧
      run.value = some (.error (.unserved reason))) ∧ run.journal.only isOutward = [] := by
  cases goes with
  | unobserved _ refused =>
    have lacks := lacks_observation settings surroundings isSilent_isOutward.ignoresSignals
      fun record _ => isSilent_isOutward.ignoresRecords record
    exact ⟨⟨_, refused, rfl⟩, lacks.bind (fun _ => .pure _) world⟩
  | unreached observes _ _ => exact absurd observes blind
  | supervised observes _ => exact absurd observes blind

/-- A service whose database is not reached ends with that failure. -/
theorem value_of_unreached (observes : Observes settings surroundings)
    (fails : ∀ way pace, ¬Reaches settings surroundings way pace) :
    ∃ begun failure, (connection settings surroundings begun).value.1 = .error failure ∧
      run.value = some (.error (.ofPool failure)) := by
  cases goes with
  | unobserved blind refused => exact absurd observes blind
  | unreached _ _ is => exact ⟨_, _, is, rfl⟩
  | supervised _ reaches => exact absurd reaches (fails _ _)

/-- A service whose database is reached supervises its visits. -/
theorem supervises {way pace : Nat} (observes : Observes settings surroundings)
    (reaches : Reaches settings surroundings way pace) :
    let before := approach settings surroundings world
    Supervises settings surroundings outlook before (supervision settings outlook before.world)
      run := by
  cases goes with
  | unobserved blind refused => exact absurd observes blind
  | unreached _ fails _ => exact absurd reaches (fails _ _)
  | supervised _ _ => exact supervises_supervising settings surroundings outlook world

/-- A service that ends well closes its pool. -/
theorem closes (well : run.value = some (.ok ())) :
    .poolClosed ∈ run.journal.map Entry.what := by
  have goesOn := goes
  cases goes with
  | unobserved _ _ => cases well
  | unreached _ _ _ => cases well
  | supervised observes reaches =>
    have supervises := goesOn.supervises observes reaches
    exact supervises.closes.mpr ((supervises.ends _).mp well).2.1

end Goes

/-! ## The gates -/

/-- What the gates keep in a run with settings. -/
structure Gates (world : World) (run : Run (Option (Except Failure Unit))) : Prop where
  /-- The database is contacted only by a service that is observed, after that has begun. -/
  database : ∀ (before after : Journal) (entry : Entry), run.journal = before ++ entry :: after →
    isDatabaseContact entry.what = true →
      Observes settings surroundings ∧ observationRecord settings ∈ before.logs
  /-- A session, and what belongs to one, comes only after the database has been reached: its ping
  has been answered with success, in time. -/
  broker : ∀ (before after : Journal) (entry : Entry), run.journal = before ++ entry :: after →
    isLater entry.what = true →
      Observes settings surroundings ∧
        ∃ way pace begun, Reaches settings surroundings way pace ∧
          (contact begun way pace).Sublist before
  /-- A service that cannot be observed ends so. It reaches for nothing, and whatever database and
  whatever visits there are, it would be the same. -/
  unobserved : ¬Observes settings surroundings →
    (∃ reason, surroundings.metricsRefusal = some reason ∧
      run.value = some (.error (.unserved reason))) ∧
    run.journal.only isOutward = [] ∧
    ∀ {τ : Type} (others : Surroundings τ) (visits : Outlook),
      others.metricsRefusal = surroundings.metricsRefusal →
        watchRun settings others visits world = run
  /-- A service whose database is not reached ends with that failure. There is no session and
  nothing that belongs to one, and whatever visits there are, it would be the same. -/
  unreached : Observes settings surroundings →
    (∀ way pace, ¬Reaches settings surroundings way pace) →
      (∃ begun failure, (connection settings surroundings begun).value.1 = .error failure ∧
        run.value = some (.error (.ofPool failure))) ∧
      run.journal.only isLater = [] ∧
      ∀ visits : Outlook, watchRun settings surroundings visits world = run
  /-- A service whose database is reached supervises its visits. When that has ended, it closes its
  pool, and it ends well when that has been done. -/
  supervised : Observes settings surroundings → ∀ way pace,
    Reaches settings surroundings way pace →
      let before := approach settings surroundings world
      Supervises settings surroundings outlook before (supervision settings outlook before.world)
        run
  /-- A service that has ended well has closed its pool. -/
  closes : run.value = some (.ok ()) → .poolClosed ∈ run.journal.map Entry.what
  /-- When the pool is closed, nothing is open. It is closed once, and nothing is done after it.
  Then the service ends, and well, if all connections get closed. -/
  closed : ∀ (before after : Journal) (time : Nat),
    run.journal = before ++ ⟨time, .poolClosed⟩ :: after →
      run.value = surroundings.closing.map (fun _ => .ok ()) ∧ AtRest before ∧
        before.only isClosing = [] ∧ after.only isOutward = []
  /-- If the visits are sessions, the run is the beginning of the service on a list of these. -/
  sessions : outlook.AreSessions → world.IsIdle → ∃ sessions,
    Begins run (Service.run settings surroundings sessions world)

variable {settings surroundings} in
/-- A service that cannot be observed does not depend on what it could reach. -/
theorem watchRun_eq_of_not_observes {τ : Type} {others : Surroundings τ}
    (blind : ¬Observes settings surroundings)
    (same : others.metricsRefusal = surroundings.metricsRefusal) (visits : Outlook)
    (world : World) :
    watchRun settings others visits world = watchRun settings surroundings outlook world := by
  have blindToo : ¬Observes settings others := by rwa [Observes, same]
  obtain ⟨reason, refused, _⟩ := observation_value_of_not_observes blind
  rw [watchRun_of_not_observes visits blindToo (same.trans refused),
    watchRun_of_not_observes outlook blind refused, observation, same]

variable {settings surroundings} in
/-- A service whose database is not reached does not depend on its visits. -/
theorem watchRun_eq_of_not_reaches (observes : Observes settings surroundings)
    (fails : ∀ way pace, ¬Reaches settings surroundings way pace) (visits : Outlook)
    (world : World) :
    watchRun settings surroundings visits world = watchRun settings surroundings outlook world := by
  obtain ⟨_, failure, _, unreached⟩ := reachDatabase_of_not_reaches fails _
  have approached := (approach_value settings surroundings world).trans unreached
  rw [watchRun_of_error visits observes approached, watchRun_of_error outlook observes approached]

/-- A run with settings goes through the gates. -/
theorem gates_watchRun (world : World) :
    Gates settings surroundings outlook world (watchRun settings surroundings outlook world) := by
  have goes : Goes settings surroundings outlook world _ := goes_watchRun outlook world
  constructor
  case database => exact fun _ _ _ split contact => goes.database split contact
  case broker => exact fun _ _ _ split later => goes.broker split later
  case unobserved =>
    intro blind
    obtain ⟨value, quiet⟩ := goes.value_of_unobserved blind
    exact ⟨value, quiet, fun _ visits same =>
      watchRun_eq_of_not_observes outlook blind same visits world⟩
  case unreached =>
    intro observes fails
    exact ⟨goes.value_of_unreached observes fails,
      goes.lacks_of_not_reached (fun _ => fails) isRemote_isLater,
      fun visits => watchRun_eq_of_not_reaches outlook observes fails visits world⟩
  case supervised => exact fun observes _ _ reaches => goes.supervises observes reaches
  case closes => exact goes.closes
  case closed => exact fun _ _ _ split => goes.closed split
  case sessions => exact begins_watchRun settings surroundings

end EventLedger.Service

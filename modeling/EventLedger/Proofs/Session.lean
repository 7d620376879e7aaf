import EventLedger.Proofs.Visit

/-!
# Visits that are sessions

A visit whose requests are answered at once, and that leaves at once, takes no time but that of its
loop. As far as it is watched, it is a session on what arrives.
-/
namespace EventLedger

/-! ## Waits of no time -/

/-- No planned change is due. -/
def World.IsIdle (world : World) : Prop :=
  ∀ time change, world.planned = some (time, change) → world.now < time

namespace World.IsIdle

variable {world : World}

/-- Nothing becomes due without being done. -/
theorem of_keepsTime {α : Type} (idle : world.IsIdle) {run : Run α}
    (keeps : KeepsTime world run) : run.world.IsIdle := by
  intro time change planned
  cases keeps.planned with
  | ahead same early =>
    have plan := same.symm.trans planned
    have ahead := idle time change plan
    have passed := early time change plan
    omega
  | done _ gone _ _ =>
    rw [gone] at planned
    cases planned

/-- A wait of no time is no wait. -/
theorem wait_zero (idle : world.IsIdle) : Sim.wait 0 world = ⟨[], world, ()⟩ := by
  unfold Sim.wait
  cases plan : world.planned with
  | none =>
    obtain ⟨now, signal, planned, stopsAt⟩ := world
    simp only at plan
    subst plan
    rfl
  | some next =>
    obtain ⟨time, change⟩ := next
    have ahead := idle time change plan
    simp only [Nat.add_zero]
    rw [if_neg (by omega), ← plan]

end World.IsIdle

namespace Broker.Visit

/-- From a place on, requests are answered at once, the one at a later place is refused, and leaving
takes no time. -/
structure IsSession (visit : Visit) (place : Nat) (refusedAt : Option Nat) : Prop where
  /-- The answers. -/
  answer : ∀ later, visit.answer (place + later) =
    { delay := some 0
      refusal := if refusedAt = some later then some "request refused" else none }
  /-- The worker leaves at once, and closes all properly. -/
  leaving : visit.leaving = some .atOnce

variable {visit : Visit} {place : Nat} {refusedAt : Option Nat} {world : World}

/-- A worker that leaves at once closes its session while nothing else happens. -/
theorem leave_of_idle (leaving : visit.leaving = some .atOnce) (result : Except WorkerError Unit)
    (idle : world.IsIdle) :
    visit.leave result world =
      ⟨(Session.close .nothing world).journal, (Session.close .nothing world).world,
        some result⟩ := by
  unfold leave
  rw [leaving]
  simp only [Leaving.atOnce, Sim.bind_apply, idle.wait_zero, Sim.pure_apply, List.nil_append,
    List.append_nil]

/-- The later requests of a session are those of a session. -/
theorem IsSession.next (isSession : visit.IsSession place refusedAt) {later : Option Nat}
    (same : ∀ place, refusedAt = some (place + 1) ↔ later = some place) :
    visit.IsSession (place + 1) later where
  answer := by
    intro next
    have answer := isSession.answer (next + 1)
    simp only [same] at answer
    rw [Nat.add_assoc, Nat.add_comm 1 next, answer]
  leaving := isSession.leaving

/-- A request that is granted at once is told and followed by the next. -/
theorem answered_of_granted (answer : visit.answer place = { delay := some 0, refusal := none })
    (idle : world.IsIdle) (goOn : Sim (Option (Except WorkerError Unit))) (request : Request) :
    visit.answered goOn place request world =
      (Session.reportGranted request >>= fun _ => goOn) world := by
  unfold answered
  simp only [answer, Sim.bind_apply, idle.wait_zero, List.nil_append]

/-- A request that is refused at once ends the visit. -/
theorem answered_of_refused {reason : String}
    (answer : visit.answer place = { delay := some 0, refusal := some reason })
    (idle : world.IsIdle) (goOn : Sim (Option (Except WorkerError Unit))) (request : Request) :
    visit.answered goOn place request world = visit.endRefused request reason world := by
  unfold answered
  simp only [answer, Sim.bind_apply, idle.wait_zero, List.nil_append]

/-- A visit that is refused at once ends as a session does. -/
theorem endRefused_of_idle (leaving : visit.leaving = some .atOnce) (request : Request)
    (idle : (Sim.happen (.requested request) world).world.IsIdle) :
    (Sim.happen (.requested request) world).andThen
      (visit.endRefused request "request refused" (Sim.happen (.requested request) world).world) =
      (some <$> Session.endRefused request) world := by
  have left := leave_of_idle leaving (.error (.broker "request refused")) idle
  change _ = (Session.endRefused request >>= fun result => pure (some result)) world
  unfold endRefused Session.endRefused
  cases Session.precedesChannel request with
  | true => simp [Sim.bind_apply, Run.andThen]
  | false =>
    simp only [Bool.false_eq_true, ↓reduceIte, Bool.not_false, Sim.bind_apply, Run.andThen, left]
    simp

/-- A set-up that is answered at once sends what is granted, and ends or goes on. -/
theorem IsSession.setUp_apply (isSession : visit.IsSession place refusedAt)
    (goOn : Sim (Option (Except WorkerError Unit))) (requests : List Request)
    (idle : world.IsIdle) :
    visit.setUp goOn place requests world =
      (Session.sendGranted (Session.granted requests refusedAt).1 >>= fun _ =>
        match (Session.granted requests refusedAt).2 with
        | some request => some <$> Session.endRefused request
        | none => goOn) world := by
  induction requests generalizing place refusedAt world with
  | nil =>
    cases refusedAt with
    | none => rfl
    | some later =>
      simp only [Session.granted, List.take_nil, List.getElem?_nil]
      rfl
  | cons request rest ih =>
    have answer := isSession.answer 0
    have orderly : (Sim.happen (.requested request)).Orderly := .happen nofun
    have sent := idle.of_keepsTime (orderly world)
    have granted (later : Option Nat) (next : visit.IsSession (place + 1) later) :
        (Sim.happen (.requested request) world).andThen
          ((Session.reportGranted request >>= fun _ => visit.setUp goOn (place + 1) rest)
            (Sim.happen (.requested request) world).world) =
          (Session.sendGranted (request :: (Session.granted rest later).1) >>= fun _ =>
            match (Session.granted rest later).2 with
            | some request => some <$> Session.endRefused request
            | none => goOn) world := by
      have told := sent.of_keepsTime ((plain_reportGranted request).orderly _)
      rw [Sim.bind_eq_andThen, ih next told]
      simp only [Session.sendGranted, Sim.bind_apply, Run.andThen, List.append_assoc]
    rw [Nat.add_zero] at answer
    rw [setUp, Sim.bind_eq_andThen]
    cases refusedAt with
    | none =>
      rw [answered_of_granted answer sent]
      exact granted none (isSession.next (by simp))
    | some later =>
      cases later with
      | zero =>
        rw [answered_of_refused answer sent, endRefused_of_idle isSession.leaving request sent]
        rfl
      | succ later =>
        rw [answered_of_granted answer sent]
        exact granted (some later) (isSession.next (by simp))

/-- What is watched of a run is its beginning, and all of it if it has ended. -/
structure Watches {β : Type} (run : Run (Option β)) (whole : Run β) : Prop where
  /-- What has happened is the beginning. -/
  journal : run.journal <+: whole.journal
  /-- If the run has ended, it is all. -/
  ended : ∀ value, run.value = some value → whole = ⟨run.journal, run.world, value⟩

/-- What is watched after something else is the beginning of both. -/
theorem Watches.andThen {β γ : Type} {run : Run (Option β)} {whole : Run β}
    (watches : Watches run whole) (first : Run γ) :
    Watches (first.andThen run) (first.andThen whole) where
  journal := (List.prefix_append_right_inj _).mpr watches.journal
  ended := by
    intro value ended
    rw [watches.ended value ended]
    rfl

/-- A run that ends is watched to its end. -/
theorem watches_some {β : Type} (run : Sim β) (world : World) :
    Watches ((some <$> run) world) (run world) := by
  change Watches ((run >>= fun value => pure (some value)) world) _
  rw [Sim.bind_apply]
  simp only [Sim.pure_apply, List.append_nil]
  refine ⟨List.prefix_rfl, fun value is => ?_⟩
  cases is
  rfl

/-- The loop of a visit that leaves at once is that of a session. -/
theorem watches_consume (leaving : visit.leaving = some .atOnce) (idle : world.IsIdle)
    (consumer : Consumer) (prefetch : UInt16) (turns : Nat) : ∃ wakes,
    Watches (visit.consume consumer prefetch turns world)
      (Session.consume consumer prefetch wakes world) := by
  let begun := (Session.reportStart consumer prefetch world).world
  obtain ⟨wakes, ensues⟩ := visit.feed.run_ensues consumer turns [] begun
  refine ⟨wakes, .andThen ?_ (Session.reportStart consumer prefetch world)⟩
  have stillIdle : begun.IsIdle := idle.of_keepsTime ((plain_reportStart _ _).orderly world)
  have looped := stillIdle.of_keepsTime (Sim.Orderly.run visit.feed consumer turns [] begun)
  change Watches ((visit.feed.run consumer turns [] >>= visit.afterLoop) begun)
    ((consumer.loop wakes >>= fun done =>
      Session.close .nothing >>= fun _ => pure done.result) begun)
  rw [Sim.bind_eq_andThen, Sim.bind_eq_andThen]
  generalize visit.feed.run consumer turns [] begun = run at ensues looped ⊢
  unfold afterLoop
  cases result : run.value.result with
  | none =>
    refine ⟨?_, nofun⟩
    simp only [Run.andThen, Sim.pure_apply, List.append_nil]
    exact ensues.journal.trans (List.prefix_append _ _)
  | some ended =>
    obtain ⟨journal, value⟩ := ensues.ended ended result
    simp only
    rw [leave_of_idle leaving ended looped]
    simp only [Run.andThen, journal, value, ensues.after ended result, Sim.bind_pure_apply]
    exact ⟨List.prefix_rfl, fun value is => by rw [Option.some.inj is]⟩

/-- A visit that takes no time but that of its loop is a session, as far as it is watched. -/
theorem IsSession.watches_run (isSession : visit.IsSession 0 refusedAt) (idle : world.IsIdle)
    (consumer : Consumer) (prefetch : UInt16) (turns : Nat) : ∃ wakes,
    Watches (visit.run consumer prefetch turns world)
      (Session.run consumer prefetch { refusedAt, wakes } world) := by
  rw [run, isSession.setUp_apply _ _ idle, Sim.bind_eq_andThen]
  generalize is : Session.granted (Broker.setUp prefetch consumer.virtualHost consumer.usageQueue
    consumer.auditQueue) refusedAt = granted
  obtain ⟨sent, refused⟩ := granted
  have begun := idle.of_keepsTime ((plain_sendGranted sent).orderly world)
  have session (wakes : List Consumer.Wake) :
      Session.run consumer prefetch { refusedAt, wakes } world =
        (Session.sendGranted sent world).andThen
          ((match refused with
            | some request => Session.endRefused request
            | none => Session.consume consumer prefetch wakes)
            (Session.sendGranted sent world).world) := by
    unfold Session.run
    simp only [is]
    rfl
  cases refused with
  | some request =>
    refine ⟨[], ?_⟩
    rw [session]
    exact (watches_some _ _).andThen _
  | none =>
    obtain ⟨wakes, watches⟩ :=
      watches_consume isSession.leaving begun consumer prefetch turns
    refine ⟨wakes, ?_⟩
    rw [session]
    exact watches.andThen _

end Broker.Visit

end EventLedger

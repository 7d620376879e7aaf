import EventLedger.Proofs.Serial
import EventLedger.Proofs.Timekeeping

/-!
# How a loop ends

A loop ends well only while it waits, and only if it shall not go on; it ends with an error exactly
if the last item that it took was the end or a failure of a queue, or a delivery for which the store
has ended. One turn waits and then either declines or deals with one item, `Turned`, and a worker
that has been asked to stop when a turn begins declines. So at most one item is taken after that.
-/
namespace EventLedger.Consumer

/-! ## One turn -/

/-- Nothing is noted but changes of the wish to go on. -/
def IsQuiet (journal : Journal) : Prop :=
  ∀ entry ∈ journal, ∃ change source, entry.what = .signalled change source

/-- In a quiet journal there is nothing of a sort that ignores signals. -/
theorem IsQuiet.only {journal : Journal} (quiet : IsQuiet journal) {keep : Occurrence → Bool}
    (ignores : Sim.IgnoresSignals keep) : journal.only keep = [] := by
  rw [Journal.only, List.filter_eq_nil_iff]
  intro what among
  obtain ⟨entry, listed, rfl⟩ := List.mem_map.mp among
  obtain ⟨change, source, noted⟩ := quiet entry listed
  simp [noted, ignores]

/-- Waiting is quiet. -/
theorem isQuiet_wait (millis : Nat) (world : World) : IsQuiet (Sim.wait millis world).journal := by
  unfold Sim.wait
  cases world.planned with
  | none => simp [IsQuiet]
  | some plan =>
    simp only
    split <;> simp [IsQuiet]

/-- A wait that begins in one world ends in another. -/
structure Waits (world : World) (waited : Journal) (begun : World) : Prop where
  /-- Nothing is done in it. -/
  quiet : IsQuiet waited
  /-- It keeps time. -/
  keeps : KeepsTime world (⟨waited, begun, ()⟩ : Run Unit)

/-- To go on at once is to wait for nothing. -/
theorem waits_nothing (world : World) : Waits world [] world where
  quiet := by simp [IsQuiet]
  keeps := .nothing ()

/-- A wait is waited for. -/
theorem waits_wait (millis : Nat) (world : World) :
    Waits world (Sim.wait millis world).journal (Sim.wait millis world).world where
  quiet := isQuiet_wait millis world
  keeps := Sim.Orderly.wait millis world

/-- What a turn can be: after a wait the loop declines or deals with what has come, or it waits for
ever. -/
inductive Turned (consumer : Consumer) (world : World) : Option Wake → Run Turn → Prop where
  /-- The loop declines, since it shall not go on. -/
  | declined {wake? : Option Wake} {waited : Journal} {begun : World}
      (waits : Waits world waited begun) (halted : begun.signal ≠ .running) :
      Turned consumer world wake?
        ⟨waited ++ (decline begun).journal, (decline begun).world, .declined⟩
  /-- The loop deals with what has come; no stop had been asked for when the turn began. -/
  | took {wake : Wake} {waited : Journal} {begun : World} (waits : Waits world waited begun)
      (goesOn : world.signal ≠ .stopped) :
      Turned consumer world (some wake)
        ⟨waited ++ (take consumer wake.arrival begun).journal,
          (take consumer wake.arrival begun).world, (take consumer wake.arrival begun).value⟩
  /-- Nothing comes any more. -/
  | stuck (never : world.signalTime? = none) : Turned consumer world none ⟨[], world, .stuck⟩

/-- A turn is one of these. -/
theorem turned_turn (consumer : Consumer) (wake? : Option Wake) (world : World) :
    Turned consumer world wake? (turn consumer wake? world) := by
  unfold turn
  rw [Sim.world_bind]
  cases stopped : world.isStopped with
  | true =>
    have halted : world.signal ≠ .running := by simp [of_decide_eq_true stopped]
    exact .declined (waits_nothing world) halted
  | false =>
    have goesOn : world.signal ≠ .stopped := of_decide_eq_false stopped
    cases wake? with
    | some wake =>
      obtain ⟨time, ⟨comes, _⟩, waited⟩ | ⟨_, waited⟩ :=
        Sim.waitUnlessSignalled_cases wake.delay wake.tie world
      · simp only [Bool.false_eq_true, ↓reduceIte, Sim.bind_apply, waited]
        exact .declined (waits_wait _ world) (wait_halts comes)
      · simp only [Bool.false_eq_true, ↓reduceIte, Sim.bind_apply, waited]
        exact .took (waits_wait _ world) goesOn
    | none =>
      simp only [Bool.false_eq_true, ↓reduceIte, Sim.world_bind, Sim.ite_apply]
      cases comes : world.signalTime? with
      | none => exact .stuck comes
      | some time =>
        simp only [Option.isSome_some, ↓reduceIte, Sim.bind_apply, Sim.waitForSignal_apply comes]
        exact .declined (waits_wait _ world) (wait_halts comes)

/-! ## Items that are taken -/

/-- An item that has been taken from the queue of a kind. -/
structure Serving where
  /-- The kind of the queue. -/
  kind : EventKind
  /-- The item. -/
  item : Item

namespace Serving

/-- The handling of the item, if it is a message. -/
def handling? (serving : Serving) : Option Handling := serving.item.handling? serving.kind

/-- What the loop does with the item. -/
def deeds (consumer : Consumer) (serving : Serving) : List Occurrence :=
  match serving.handling? with
  | some handling => handling.block consumer
  | none => [.took serving.kind]

/-- The error with which the loop ends after the item, if it does. -/
def failure? (consumer : Consumer) (serving : Serving) : Option WorkerError :=
  match serving.item with
  | .message tag body store settlement =>
    let handling : Handling := { delivery := ⟨serving.kind, tag, body⟩, store, settlement }
    (handling.outcome consumer).fatalError?.map .store
  | .failure reason => some (.consume (consumer.queueName serving.kind) reason)
  | .closed => some (.streamClosed (consumer.queueName serving.kind))

end Serving

/-- A feed hands out items one after another, after some have been taken. -/
inductive Feed.HandsOut (feed : Feed) : List EventKind → List Serving → Prop where
  /-- No item. -/
  | nil {taken : List EventKind} : feed.HandsOut taken []
  /-- The next item of a queue, and then others. -/
  | cons {taken : List EventKind} {kind : EventKind} {offer : Offer} {rest : List Serving}
      (offered : feed.offer kind (taken.count kind) = some offer)
      (later : feed.HandsOut (taken ++ [kind]) rest) :
      feed.HandsOut taken (⟨kind, offer.item⟩ :: rest)

/-- Whether something is taken from a queue. -/
def isTaking : Occurrence → Bool
  | .took _ => true
  | _ => false

/-- Signals are no takings. -/
theorem isTaking_ignoresSignals : Sim.IgnoresSignals isTaking := fun _ _ => rfl

/-- How the loop goes on after an item. -/
theorem take_value (consumer : Consumer) (serving : Serving) (world : World) :
    (take consumer (serving.item.arrival serving.kind) world).value =
      match serving.failure? consumer with
      | some error => .ended (.error error)
      | none => .goesOn := by
  obtain ⟨kind, item⟩ := serving
  cases item with
  | message tag body store settlement =>
    let handling : Handling := { delivery := ⟨kind, tag, body⟩, store, settlement }
    refine (take_delivery_value consumer handling world).trans ?_
    cases fatal : (handling.outcome consumer).fatalError? <;>
      simp only [Handling.turn, Serving.failure?, handling, fatal, Option.map_none,
        Option.map_some] at fatal ⊢
  | failure reason => rfl
  | closed => rfl

/-- What the loop does with an item is a function of the item. -/
theorem deeds_take (consumer : Consumer) (serving : Serving) (world : World) :
    (take consumer (serving.item.arrival serving.kind) world).journal.deeds =
      serving.deeds consumer := by
  obtain ⟨kind, item⟩ := serving
  cases item with
  | message tag body store settlement =>
    exact deeds_take_delivery consumer { delivery := ⟨kind, tag, body⟩, store, settlement } world
  | failure reason => rfl
  | closed => rfl

/-- What is taken is among the deeds. -/
theorem only_isTaking (journal : Journal) :
    journal.only isTaking = journal.deeds.filter isTaking :=
  journal.only_of_imp fun what => by cases what <;> simp [isTaking, Occurrence.isDeed]

/-- Each item is taken once. -/
theorem Serving.takings_deeds (consumer : Consumer) (serving : Serving) :
    (serving.deeds consumer).filter isTaking = [.took serving.kind] := by
  obtain ⟨kind, item⟩ := serving
  cases item with
  | message tag body store settlement =>
    simp only [Serving.deeds, Serving.handling?, Item.handling?, Handling.block, Handling.deeds,
      Handling.storeCall]
    split <;> rfl
  | failure reason => rfl
  | closed => rfl

/-! ## Runs -/

/-- A worker that has been asked to stop declines. -/
theorem turn_of_stopped (consumer : Consumer) (wake? : Option Wake) {world : World}
    (stopped : world.signal = .stopped) : turn consumer wake? world = decline world := by
  have isStopped : world.isStopped = true := decide_eq_true stopped
  unfold turn
  rw [Sim.world_bind, isStopped]
  rfl

/-- A loop that begins after a stop has been asked for ends well at once. -/
theorem Feed.run_succ_of_stopped (feed : Feed) (consumer : Consumer) (turns : Nat)
    (taken : List EventKind) {world : World} (stopped : world.signal = .stopped) :
    feed.run consumer (turns + 1) taken world =
      ⟨(decline world).journal, (decline world).world, { taken, result := some (.ok ()) }⟩ := by
  cases next : feed.next? taken world.now with
  | none =>
    rw [run_succ_of_none next, turn_of_stopped consumer none stopped]
    rfl
  | some choice =>
    rw [run_succ_of_some next, turn_of_stopped consumer _ stopped]
    rfl

/-- To decline says nothing of a silent sort. -/
theorem only_decline {keep : Occurrence → Bool} (silent : IsSilent keep) (world : World) :
    (decline world).journal.only keep = [] := by
  rw [decline, Sim.bind_pure_apply]
  exact silent.only_log _ _ _ _ _

/-- Neither signals nor what a store says are takings. -/
theorem isSilent_isTaking : IsSilent isTaking := ⟨isTaking_ignoresSignals, fun _ => rfl⟩

/-- Nothing is taken after a stop has been asked for. -/
theorem Feed.takings_run_of_stopped (feed : Feed) (consumer : Consumer) (turns : Nat)
    (taken : List EventKind) {world : World} (stopped : world.signal = .stopped) :
    (feed.run consumer turns taken world).journal.only isTaking = [] := by
  cases turns with
  | zero => rfl
  | succ turns =>
    rw [run_succ_of_stopped feed consumer turns taken stopped]
    exact only_decline isSilent_isTaking world

/-- How a run of one turn and more goes, after some items have been taken: the loop declines, or
waits for ever, or deals with an item, with which it ends or goes on. -/
inductive Feed.Steps (feed : Feed) (consumer : Consumer) (turns : Nat) (taken : List EventKind)
    (world : World) : Run Feed.Progress → Prop where
  /-- The loop declines. -/
  | declined {waited : Journal} {begun : World} (waits : Waits world waited begun)
      (halted : begun.signal ≠ .running) :
      feed.Steps consumer turns taken world
        ⟨waited ++ (decline begun).journal, (decline begun).world,
          { taken, result := some (.ok ()) }⟩
  /-- Nothing comes any more. -/
  | stuck (never : world.signalTime? = none) :
      feed.Steps consumer turns taken world ⟨[], world, { taken, result := none }⟩
  /-- The loop ends with an item. -/
  | ended {waited : Journal} {begun : World} (waits : Waits world waited begun)
      {kind : EventKind} {offer : Offer}
      (offered : feed.offer kind (taken.count kind) = some offer) {error : WorkerError}
      (failure : (⟨kind, offer.item⟩ : Serving).failure? consumer = some error) :
      feed.Steps consumer turns taken world
        ⟨waited ++ (take consumer (offer.item.arrival kind) begun).journal,
          (take consumer (offer.item.arrival kind) begun).world,
          { taken := taken ++ [kind], result := some (.error error) }⟩
  /-- The loop deals with an item and goes on. -/
  | wentOn {waited : Journal} {begun : World} (waits : Waits world waited begun)
      {kind : EventKind} {offer : Offer}
      (offered : feed.offer kind (taken.count kind) = some offer)
      (mild : (⟨kind, offer.item⟩ : Serving).failure? consumer = none) {later : Run Feed.Progress}
      (follows : later = feed.run consumer turns (taken ++ [kind])
        (take consumer (offer.item.arrival kind) begun).world) :
      feed.Steps consumer turns taken world
        ⟨waited ++ (take consumer (offer.item.arrival kind) begun).journal ++ later.journal,
          later.world, later.value⟩

/-- A run goes so. -/
theorem Feed.steps_run (feed : Feed) (consumer : Consumer) (turns : Nat) (taken : List EventKind)
    (world : World) :
    feed.Steps consumer turns taken world (feed.run consumer (turns + 1) taken world) := by
  cases next : feed.next? taken world.now with
  | none =>
    rw [run_succ_of_none next]
    generalize turn consumer none world = run, turned_turn consumer none world = turned
    cases turned with
    | declined waits halted => exact .declined waits halted
    | stuck never => exact .stuck never
  | some choice =>
    obtain ⟨kind, offer⟩ := choice
    rw [run_succ_of_some next]
    generalize turn consumer (some (feed.wake taken world.now kind offer)) world = run,
      turned_turn consumer (some (feed.wake taken world.now kind offer)) world = turned
    cases turned with
    | declined waits halted => exact .declined waits halted
    | took waits goesOn =>
      rename_i waited begun
      have value := take_value consumer ⟨kind, offer.item⟩ begun
      have arrival : (feed.wake taken world.now kind offer).arrival = offer.item.arrival kind := rfl
      rw [arrival]
      cases failure : (⟨kind, offer.item⟩ : Serving).failure? consumer with
      | some error =>
        rw [failure] at value
        simp only [value]
        exact .ended waits (offer_of_next? next) failure
      | none =>
        rw [failure] at value
        simp only [value]
        exact .wentOn waits (offer_of_next? next) failure rfl

/-- How a run goes that takes some items, after others have been taken. -/
structure Ends (feed : Feed) (consumer : Consumer) (taken : List EventKind)
    (servings : List Serving) (world : World) (run : Run Feed.Progress) : Prop where
  /-- The feed hands the items out. -/
  handed : feed.HandsOut taken servings
  /-- No others are taken. -/
  takes : run.value.taken = taken ++ servings.map Serving.kind
  /-- Each is dealt with as a whole. -/
  deeds : run.journal.deeds = servings.flatMap (Serving.deeds consumer)
  /-- The loop goes on after all but the last one. -/
  mild : ∀ serving ∈ servings.dropLast, serving.failure? consumer = none
  /-- The loop fails with the last one, if that is a reason to. -/
  fails : ∀ error, run.value.result = some (.error error) ↔
    ∃ serving, servings.getLast? = some serving ∧ serving.failure? consumer = some error
  /-- If the loop ends well, it says so after it has been told not to go on. -/
  stops : run.value.result = some (.ok ()) → ∃ before begun,
    run.journal = before ++ (decline begun).journal ∧ world.signal.afterAll before ≠ .running
  /-- After a stop has been asked for, at most one more item is taken. -/
  few : AtMostAfterStop isTaking 1 world.signal run.journal

namespace Ends

variable {feed : Feed} {consumer : Consumer} {taken : List EventKind} {world : World}

/-- A run that takes nothing and has not failed. -/
theorem nothing {run : Run Feed.Progress} (deeds : run.journal.deeds = [])
    (takes : run.value.taken = taken) (fails : ∀ error, run.value.result ≠ some (.error error))
    (stops : run.value.result = some (.ok ()) → ∃ before begun,
      run.journal = before ++ (decline begun).journal ∧
        world.signal.afterAll before ≠ .running) : Ends feed consumer taken [] world run where
  handed := .nil
  takes := by simp [takes]
  deeds := deeds
  mild := by simp
  fails := by simp [fails]
  stops := stops
  few := .of_length_le (by simp [only_isTaking, deeds])

/-- A run that declines takes nothing. -/
theorem declined {waited : Journal} {begun : World} (waits : Waits world waited begun)
    (halted : begun.signal ≠ .running) :
    Ends feed consumer taken [] world
      ⟨waited ++ (decline begun).journal, (decline begun).world,
        { taken, result := some (.ok ()) }⟩ := by
  apply nothing
  · rw [Journal.deeds, Journal.only_append, waits.quiet.only Sim.isDeed_ignoresSignals,
      only_decline isSilent_isDeed]
    rfl
  · rfl
  · simp
  · exact fun _ => ⟨waited, begun, rfl, waits.keeps.signal ▸ halted⟩

/-- What a turn that deals with an item leaves behind: no more than one item is taken in it. -/
theorem few_of_take {waited : Journal} {begun : World} (waits : Waits world waited begun)
    (serving : Serving) : AtMostAfterStop isTaking 1 world.signal
      (waited ++ (take consumer (serving.item.arrival serving.kind) begun).journal) := by
  apply AtMostAfterStop.of_length_le
  rw [Journal.only_append, waits.quiet.only isTaking_ignoresSignals, only_isTaking, deeds_take,
    serving.takings_deeds]
  exact Nat.le_refl _

/-- What is waited for before an item is taken is no deed. -/
theorem deeds_waited_append {waited : Journal} {begun : World} (waits : Waits world waited begun)
    (serving : Serving) :
    Journal.deeds (waited ++ (take consumer (serving.item.arrival serving.kind) begun).journal) =
      serving.deeds consumer := by
  rw [Journal.deeds, Journal.only_append, waits.quiet.only Sim.isDeed_ignoresSignals,
    List.nil_append]
  exact deeds_take consumer serving begun

/-- A run whose only item is a reason to end. -/
theorem last {waited : Journal} {begun : World} (waits : Waits world waited begun)
    {kind : EventKind} {offer : Offer} (offered : feed.offer kind (taken.count kind) = some offer)
    {error : WorkerError}
    (failure : (⟨kind, offer.item⟩ : Serving).failure? consumer = some error) :
    Ends feed consumer taken [⟨kind, offer.item⟩] world
      ⟨waited ++ (take consumer (offer.item.arrival kind) begun).journal,
        (take consumer (offer.item.arrival kind) begun).world,
        { taken := taken ++ [kind], result := some (.error error) }⟩ where
  handed := .cons offered .nil
  takes := rfl
  deeds := by
    rw [List.flatMap_singleton]
    exact deeds_waited_append waits ⟨kind, offer.item⟩
  mild := by simp
  fails := by
    intro other
    simp [failure]
  stops := by simp
  few := few_of_take waits ⟨kind, offer.item⟩

/-- A run that deals with an item and goes on. -/
theorem cons {waited : Journal} {begun : World} (waits : Waits world waited begun)
    {kind : EventKind} {offer : Offer} (offered : feed.offer kind (taken.count kind) = some offer)
    (mild : (⟨kind, offer.item⟩ : Serving).failure? consumer = none)
    {servings : List Serving} {later : Run Feed.Progress}
    (ends : Ends feed consumer (taken ++ [kind]) servings
      (take consumer (offer.item.arrival kind) begun).world later)
    (none : (take consumer (offer.item.arrival kind) begun).world.signal = .stopped →
      later.journal.only isTaking = []) :
    Ends feed consumer taken (⟨kind, offer.item⟩ :: servings) world
      ⟨waited ++ (take consumer (offer.item.arrival kind) begun).journal ++ later.journal,
        later.world, later.value⟩ := by
  have signal : (take consumer (offer.item.arrival kind) begun).world.signal =
      world.signal.afterAll
        (waited ++ (take consumer (offer.item.arrival kind) begun).journal) := by
    rw [(Sim.Orderly.take consumer kind offer.item begun).signal, waits.keeps.signal,
      Signal.afterAll_append]
  constructor
  · exact .cons offered ends.handed
  · simp [ends.takes]
  · rw [Journal.deeds, Journal.only_append, List.flatMap_cons, ← ends.deeds]
    congr 1
    exact deeds_waited_append waits ⟨kind, offer.item⟩
  · cases servings with
    | nil => simp
    | cons next rest =>
      rw [List.dropLast_cons_cons, List.forall_mem_cons]
      exact ⟨mild, ends.mild⟩
  · intro error
    rw [ends.fails error]
    cases servings with
    | nil => simp [mild]
    | cons next rest => rw [List.getLast?_cons_cons]
  · intro well
    obtain ⟨before, told, journal, halted⟩ := ends.stops well
    refine ⟨waited ++ (take consumer (offer.item.arrival kind) begun).journal ++ before, told,
      ?_, ?_⟩
    · simp only [journal, List.append_assoc]
    · rwa [Signal.afterAll_append, ← signal]
  · have few := ends.few
    rw [signal] at few none
    exact (few_of_take waits ⟨kind, offer.item⟩).append few none

end Ends

/-- Every run of a loop on a feed goes so. -/
theorem Feed.run_ends (feed : Feed) (consumer : Consumer) (turns : Nat) (taken : List EventKind)
    (world : World) : ∃ servings,
      Ends feed consumer taken servings world (feed.run consumer turns taken world) := by
  induction turns generalizing taken world with
  | zero => exact ⟨[], .nothing rfl rfl nofun nofun⟩
  | succ turns ih =>
    generalize feed.run consumer (turns + 1) taken world = run,
      feed.steps_run consumer turns taken world = steps
    cases steps with
    | declined waits halted => exact ⟨[], .declined waits halted⟩
    | stuck never => exact ⟨[], .nothing rfl rfl nofun nofun⟩
    | ended waits offered failure => exact ⟨_, .last waits offered failure⟩
    | wentOn waits offered mild follows =>
      subst follows
      obtain ⟨servings, ends⟩ := ih _ _
      exact ⟨_, .cons waits offered mild ends (feed.takings_run_of_stopped consumer turns _)⟩

/-! ## More turns -/

/-- A loop that waits for ever takes no turn. -/
theorem Feed.run_of_never {feed : Feed} {taken : List EventKind} {world : World}
    (next : feed.next? taken world.now = none) (never : world.signalTime? = none)
    (consumer : Consumer) (turns : Nat) :
    feed.run consumer turns taken world = ⟨[], world, { taken, result := none }⟩ := by
  cases turns with
  | zero => rfl
  | succ turns =>
    rw [run_succ_of_none next, turn_none_of_signalTime?_eq_none consumer never]

/-- More turns go on from where the first ones have come, unless the loop has ended. -/
theorem Feed.run_add (feed : Feed) (consumer : Consumer) (turns more : Nat)
    (taken : List EventKind) (world : World) :
    feed.run consumer (turns + more) taken world =
      let first := feed.run consumer turns taken world
      match first.value.result with
      | some _ => first
      | none =>
        let later := feed.run consumer more first.value.taken first.world
        ⟨first.journal ++ later.journal, later.world, later.value⟩ := by
  induction turns generalizing taken world with
  | zero =>
    rw [Nat.zero_add]
    rfl
  | succ turns ih =>
    rw [Nat.add_right_comm]
    cases next : feed.next? taken world.now with
    | none =>
      rw [run_succ_of_none next, run_succ_of_none next]
      cases comes : world.signalTime? with
      | none =>
        simp only [turn_none_of_signalTime?_eq_none consumer comes,
          run_of_never next comes consumer more, List.append_nil]
      | some time =>
        generalize turn consumer none world = run, turned_turn consumer none world = turned
        cases turned with
        | declined waits halted => rfl
        | stuck never => rw [comes] at never; cases never
    | some choice =>
      obtain ⟨kind, offer⟩ := choice
      rw [run_succ_of_some next, run_succ_of_some next]
      generalize turn consumer (some (feed.wake taken world.now kind offer)) world = run,
        turned_turn consumer (some (feed.wake taken world.now kind offer)) world = turned
      cases turned with
      | declined waits halted => rfl
      | took waits goesOn =>
        rename_i waited begun
        have value := take_value consumer ⟨kind, offer.item⟩ begun
        have arrival : (feed.wake taken world.now kind offer).arrival = offer.item.arrival kind :=
          rfl
        rw [arrival]
        cases failure : (⟨kind, offer.item⟩ : Serving).failure? consumer with
        | some error =>
          rw [failure] at value
          simp only [value]
        | none =>
          rw [failure] at value
          simp only [value, ih]
          cases (feed.run consumer turns (taken ++ [kind])
            (take consumer (offer.item.arrival kind) begun).world).value.result <;> simp

/-- A loop that has ended takes no more turns. -/
theorem Feed.run_add_of_ended {feed : Feed} {consumer : Consumer} {turns : Nat}
    {taken : List EventKind} {world : World}
    (ended : (feed.run consumer turns taken world).value.result.isSome) (more : Nat) :
    feed.run consumer (turns + more) taken world = feed.run consumer turns taken world := by
  obtain ⟨result, is⟩ := Option.isSome_iff_exists.mp ended
  rw [run_add]
  simp only [is]

/-! ## Reasons to end -/

/-- An outcome that ends the loop is a failure whose error is fatal. -/
theorem fatalError?_eq_some {outcome : Outcome} {error : StoreError} :
    outcome.fatalError? = some error ↔ outcome = .failed error ∧ error.isFatal = true := by
  cases outcome with
  | committed =>
    refine iff_of_false nofun ?_
    rintro ⟨⟨⟩, _⟩
  | invalid _ =>
    refine iff_of_false nofun ?_
    rintro ⟨⟨⟩, _⟩
  | failed other =>
    simp only [Outcome.fatalError?, Outcome.failed.injEq]
    constructor
    · intro found
      split at found
      · cases found
        exact ⟨rfl, by assumption⟩
      · cases found
    · rintro ⟨rfl, fatal⟩
      rw [if_pos fatal]

/-- An event is put back into its queue when its store has ended. -/
theorem decision_of_isFatal {error : StoreError} (fatal : error.isFatal = true) :
    (Outcome.failed error).decision = .requeue := by
  cases error with
  | fatal cause => rfl
  | retriable cause | rejected cause | timeout limit => cases fatal

namespace Serving

variable {consumer : Consumer} {serving : Serving}

/-- The loop ends for a closed queue after the end of that queue. -/
theorem failure?_eq_streamClosed {queue : String} :
    serving.failure? consumer = some (.streamClosed queue) ↔
      queue = consumer.queueName serving.kind ∧ serving.item = .closed := by
  obtain ⟨kind, item⟩ := serving
  cases item with
  | message tag body store settlement =>
    refine iff_of_false (fun failure => ?_) (by rintro ⟨_, ⟨⟩⟩)
    obtain ⟨_, _, ⟨⟩⟩ := Option.map_eq_some_iff.mp failure
  | failure reason => exact iff_of_false nofun (by rintro ⟨_, ⟨⟩⟩)
  | closed =>
    constructor
    · rintro ⟨⟩
      exact ⟨rfl, rfl⟩
    · rintro ⟨rfl, _⟩
      rfl

/-- It ends for a queue that fails after that failure, with its reason. -/
theorem failure?_eq_consume {queue reason : String} :
    serving.failure? consumer = some (.consume queue reason) ↔
      queue = consumer.queueName serving.kind ∧ serving.item = .failure reason := by
  obtain ⟨kind, item⟩ := serving
  cases item with
  | message tag body store settlement =>
    refine iff_of_false (fun failure => ?_) (by rintro ⟨_, ⟨⟩⟩)
    obtain ⟨_, _, ⟨⟩⟩ := Option.map_eq_some_iff.mp failure
  | failure other =>
    constructor
    · rintro ⟨⟩
      exact ⟨rfl, rfl⟩
    · rintro ⟨rfl, ⟨⟩⟩
      rfl
  | closed => exact iff_of_false nofun (by rintro ⟨_, ⟨⟩⟩)

/-- It ends for its store after a message whose outcome is a fatal error of the store. -/
theorem failure?_eq_store {error : StoreError} :
    serving.failure? consumer = some (.store error) ↔
      ∃ handling, serving.handling? = some handling ∧
        handling.outcome consumer = .failed error ∧ error.isFatal = true := by
  obtain ⟨kind, item⟩ := serving
  cases item with
  | message tag body store settlement =>
    constructor
    · intro failure
      obtain ⟨cause, fatal, ⟨⟩⟩ := Option.map_eq_some_iff.mp failure
      exact ⟨_, rfl, fatalError?_eq_some.mp fatal⟩
    · rintro ⟨handling, ⟨⟩, fatal⟩
      exact Option.map_eq_some_iff.mpr ⟨error, fatalError?_eq_some.mpr fatal, rfl⟩
  | failure reason => exact iff_of_false nofun (by rintro ⟨_, ⟨⟩, _⟩)
  | closed => exact iff_of_false nofun (by rintro ⟨_, ⟨⟩, _⟩)

/-- The loop ends for no other reason. -/
theorem failure?_cases {error : WorkerError} (failure : serving.failure? consumer = some error) :
    (∃ queue, error = .streamClosed queue) ∨ (∃ queue reason, error = .consume queue reason) ∨
      ∃ cause, error = .store cause ∧ cause.isFatal = true := by
  obtain ⟨kind, item⟩ := serving
  cases item with
  | message tag body store settlement =>
    obtain ⟨cause, fatal, rfl⟩ := Option.map_eq_some_iff.mp failure
    exact .inr (.inr ⟨cause, rfl, (fatalError?_eq_some.mp fatal).2⟩)
  | failure reason => exact .inr (.inl ⟨_, _, (Option.some.inj failure).symm⟩)
  | closed => exact .inl ⟨_, (Option.some.inj failure).symm⟩

/-- Only a message is no reason to end. -/
theorem isSome_handling?_of_failure?_eq_none (mild : serving.failure? consumer = none) :
    serving.handling?.isSome := by
  obtain ⟨kind, item⟩ := serving
  cases item with
  | message tag body store settlement => rfl
  | failure reason => cases mild
  | closed => cases mild

/-- A message is settled once. -/
theorem settlements_deeds {handling : Handling} (message : serving.handling? = some handling) :
    (serving.deeds consumer).filterMap Journal.settlement? =
      [(handling.delivery.tag, (handling.outcome consumer).decision)] := by
  rw [deeds, message]
  exact handling.settlements_deeds consumer

end Serving

/-- How a loop ends that has taken some items, watched for a number of turns. -/
structure EndsOnRequest (feed : Feed) (consumer : Consumer) (turns : Nat) (world : World)
    (servings : List Serving) (run : Run Feed.Progress) : Prop where
  /-- The items are those which the feed hands out, and no others are taken. -/
  takes : feed.HandsOut [] servings ∧ run.value.taken = servings.map Serving.kind
  /-- Each is dealt with as a whole, whenever the wish to go on changes. -/
  deeds : run.journal.deeds = servings.flatMap (Serving.deeds consumer)
  /-- If the loop ends well, all items were messages and have been dealt with, and it has been
  asked to stop or left alone before it declines. -/
  well : run.value.result = some (.ok ()) →
    (∀ serving ∈ servings, serving.handling?.isSome) ∧ ∃ before begun,
      run.journal = before ++ (decline begun).journal ∧
      before.deeds = servings.flatMap (Serving.deeds consumer) ∧
      world.signal.afterAll before ≠ .running
  /-- It ends with the end of a queue exactly if that was the last item. -/
  closed : ∀ queue, run.value.result = some (.error (.streamClosed queue)) ↔
    ∃ kind, queue = consumer.queueName kind ∧ servings.getLast? = some ⟨kind, .closed⟩
  /-- It ends with the failure of a queue exactly if that was the last item. -/
  failed : ∀ queue reason, run.value.result = some (.error (.consume queue reason)) ↔
    ∃ kind, queue = consumer.queueName kind ∧ servings.getLast? = some ⟨kind, .failure reason⟩
  /-- It ends with the end of the store exactly if the last item was a message for which the store
  had ended, and the last thing that a queue was told is to take that message back. -/
  storeEnded : ∀ error, run.value.result = some (.error (.store error)) ↔
    ∃ serving handling earlier, servings.getLast? = some serving ∧
      serving.handling? = some handling ∧ handling.outcome consumer = .failed error ∧
      error.isFatal = true ∧
      run.journal.settlements = earlier ++ [(handling.delivery.tag, .requeue)]
  /-- It ends with no other error. -/
  others : ∀ error, run.value.result = some (.error error) →
    (∃ queue, error = .streamClosed queue) ∨ (∃ queue reason, error = .consume queue reason) ∨
      ∃ cause, error = .store cause ∧ cause.isFatal = true
  /-- When it has ended it goes no further. -/
  ended : run.value.result.isSome → ∀ more, feed.run consumer (turns + more) [] world = run
  /-- If a stop has been asked for when a turn begins, nothing more is taken and the loop ends
  well. -/
  declines : run.value.result = none → run.world.signal = .stopped → ∀ more,
    let later := feed.run consumer (turns + (more + 1)) [] world
    later.value = { taken := run.value.taken, result := some (.ok ()) } ∧
      later.journal.deeds = run.journal.deeds
  /-- After a stop has been asked for, at any moment, at most one more item is taken. -/
  few : AtMostAfterStop isTaking 1 world.signal run.journal
  /-- It is a run of the loop on what arrives. -/
  follows : ∃ wakes, Follows consumer wakes world run

namespace Ends

variable {feed : Feed} {consumer : Consumer} {taken : List EventKind} {servings : List Serving}
  {world : World} {run : Run Feed.Progress}

/-- If the last item is no reason to end, no item is. -/
theorem forall_mild (ends : Ends feed consumer taken servings world run)
    (unfailed : ∀ error, run.value.result ≠ some (.error error)) :
    ∀ serving ∈ servings, serving.failure? consumer = none := by
  intro serving among
  obtain rfl | ⟨earlier, last, whole⟩ := List.eq_nil_or_concat servings
  · cases among
  · rw [List.concat_eq_append] at whole
    subst whole
    obtain early | late := List.mem_append.mp among
    · exact ends.mild serving (by rwa [List.dropLast_concat])
    · obtain rfl := List.mem_singleton.mp late
      cases failure : serving.failure? consumer with
      | none => rfl
      | some error =>
        exact absurd ((ends.fails error).mpr ⟨serving, List.getLast?_concat, failure⟩)
          (unfailed error)

/-- The last message has been settled last. -/
theorem settlements_of_getLast? (ends : Ends feed consumer taken servings world run)
    {serving : Serving} {handling : Handling} (last : servings.getLast? = some serving)
    (message : serving.handling? = some handling) : ∃ earlier, run.journal.settlements =
      earlier ++ [(handling.delivery.tag, (handling.outcome consumer).decision)] := by
  obtain ⟨init, rfl⟩ := List.getLast?_eq_some_iff.mp last
  refine ⟨(init.flatMap (Serving.deeds consumer)).filterMap Journal.settlement?, ?_⟩
  rw [Journal.settlements_eq, ends.deeds, List.flatMap_append, List.filterMap_append,
    List.flatMap_singleton, Serving.settlements_deeds message]

end Ends

/-- A loop ends well only while it waits and shall not go on, and otherwise exactly with the end of
a queue or of the store; a stop lets it finish what it does and take one more item at most. -/
theorem run_endsOnRequest (feed : Feed) (consumer : Consumer) (turns : Nat) (world : World) :
    ∃ servings, EndsOnRequest feed consumer turns world servings
      (feed.run consumer turns [] world) := by
  obtain ⟨servings, ends⟩ := feed.run_ends consumer turns [] world
  refine ⟨servings, ?_⟩
  constructor
  · exact ⟨ends.handed, ends.takes⟩
  · exact ends.deeds
  · intro well
    obtain ⟨before, begun, journal, halted⟩ := ends.stops well
    refine ⟨fun serving among => ?_, before, begun, journal, ?_, halted⟩
    · exact Serving.isSome_handling?_of_failure?_eq_none
        (ends.forall_mild (by simp [well]) serving among)
    · rw [← ends.deeds, journal, Journal.deeds, Journal.deeds, Journal.only_append,
        only_decline isSilent_isDeed, List.append_nil]
  · intro queue
    rw [ends.fails]
    constructor
    · rintro ⟨⟨kind, item⟩, last, failure⟩
      obtain ⟨named, rfl⟩ := Serving.failure?_eq_streamClosed.mp failure
      exact ⟨kind, named, last⟩
    · rintro ⟨kind, named, last⟩
      exact ⟨_, last, Serving.failure?_eq_streamClosed.mpr ⟨named, rfl⟩⟩
  · intro queue reason
    rw [ends.fails]
    constructor
    · rintro ⟨⟨kind, item⟩, last, failure⟩
      obtain ⟨named, rfl⟩ := Serving.failure?_eq_consume.mp failure
      exact ⟨kind, named, last⟩
    · rintro ⟨kind, named, last⟩
      exact ⟨_, last, Serving.failure?_eq_consume.mpr ⟨named, rfl⟩⟩
  · intro error
    rw [ends.fails]
    constructor
    · rintro ⟨serving, last, failure⟩
      obtain ⟨handling, message, outcome, fatal⟩ := Serving.failure?_eq_store.mp failure
      obtain ⟨earlier, settled⟩ := ends.settlements_of_getLast? last message
      rw [outcome, decision_of_isFatal fatal] at settled
      exact ⟨serving, handling, earlier, last, message, outcome, fatal, settled⟩
    · rintro ⟨serving, handling, _, last, message, outcome, fatal, _⟩
      exact ⟨serving, last, Serving.failure?_eq_store.mpr ⟨handling, message, outcome, fatal⟩⟩
  · intro error failed
    obtain ⟨serving, _, failure⟩ := (ends.fails error).mp failed
    exact Serving.failure?_cases failure
  · exact Feed.run_add_of_ended
  · intro pending stopped more
    rw [Feed.run_add]
    simp only [pending, Feed.run_succ_of_stopped feed consumer more _ stopped]
    refine ⟨trivial, ?_⟩
    rw [Journal.deeds, Journal.only_append, only_decline isSilent_isDeed, List.append_nil]
    rfl
  · exact ends.few
  · exact feed.run_follows consumer turns [] world

end EventLedger.Consumer

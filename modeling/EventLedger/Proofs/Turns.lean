import EventLedger.Proofs.Settlement

/-!
# Turns of a loop

A turn of a loop either declines, because the worker shall not go on, or takes what arrives, and
nothing but the signal and records is noted before that. Taking a delivery is one block of deeds.
-/
namespace EventLedger.Consumer

/-! ## Turns -/

/-- A sort without what is said about the signal and without what is logged. -/
structure IsSilent (keep : Occurrence → Bool) : Prop where
  /-- The signal is left out. -/
  ignoresSignals : Sim.IgnoresSignals keep
  /-- Records are left out. -/
  ignoresRecords : ∀ record, keep (.logged record) = false

/-- Deeds say nothing about signals and records. -/
theorem isSilent_isDeed : IsSilent Occurrence.isDeed := ⟨fun _ _ => rfl, fun _ => rfl⟩

variable {keep : Occurrence → Bool}

/-- Logging is left out. -/
theorem IsSilent.only_log (silent : IsSilent keep) (level : Log.Level) (target message : String)
    (fields : Log.Fields) (world : World) :
    (Sim.log level target message fields world).journal.only keep = [] := by
  rw [Sim.log, Sim.only_happen silent.ignoresSignals, List.filter_cons, silent.ignoresRecords]
  rfl

/-- After a change of the wish to go on, the worker shall not go on. -/
theorem after_ne_running (signal : Signal) (change : SignalChange) :
    signal.after change ≠ .running := by
  cases signal <;> cases change <;> decide

/-- A worker that shall not go on is not brought back by logging. -/
theorem log_halts (level : Log.Level) (target message : String) (fields : Log.Fields)
    {world : World} (halted : world.signal ≠ .running) :
    (Sim.log level target message fields world).world.signal ≠ .running := by
  simp only [Sim.log, Sim.happen]
  split
  · exact after_ne_running _ _
  · exact halted

/-- When the signal has come, the worker shall not go on. -/
theorem wait_halts {world : World} {time : Nat} (comes : world.signalTime? = some time) :
    (Sim.wait (time - world.now) world).world.signal ≠ .running := by
  unfold Sim.wait
  cases planned : world.planned with
  | none =>
    intro runs
    simp [World.signalTime?, show world.signal = .running from runs, planned] at comes
  | some plan =>
    simp only
    split
    · exact after_ne_running _ _
    · rename_i early
      intro runs
      have due : max plan.1 world.now = time := by
        simpa [World.signalTime?, show world.signal = .running from runs, planned] using comes
      omega

/-- A turn that declines takes nothing, and the worker shall not go on. -/
structure Declines (keep : Occurrence → Bool) (run : Run Turn) : Prop where
  /-- Nothing happens. -/
  only : run.journal.only keep = []
  /-- Nothing is taken. -/
  value : run.value = .declined
  /-- The worker shall not go on. -/
  signal : run.world.signal ≠ .running

/-- Declining is what it says. -/
theorem decline_declines (silent : IsSilent keep) {world : World}
    (halted : world.signal ≠ .running) : Declines keep (decline world) where
  only := by
    rw [decline, Sim.bind_pure_apply]
    exact silent.only_log _ _ _ _ _
  value := rfl
  signal := log_halts _ _ _ _ halted

/-- A turn declines, or it takes what arrives after nothing else has happened. -/
theorem turn_some_cases (silent : IsSilent keep) (consumer : Consumer) (wake : Wake)
    (world : World) :
    Declines keep (turn consumer (some wake) world) ∨
    ∃ begun, (turn consumer (some wake) world).value = (take consumer wake.arrival begun).value ∧
      (turn consumer (some wake) world).world = (take consumer wake.arrival begun).world ∧
      (turn consumer (some wake) world).journal.only keep =
        (take consumer wake.arrival begun).journal.only keep := by
  rw [turn, Sim.world_bind]
  cases stopped : world.isStopped with
  | true =>
    left
    have halted : world.signal ≠ .running := by
      have := of_decide_eq_true stopped
      simp [this]
    exact decline_declines silent halted
  | false =>
    have waits := Sim.only_waitUnlessSignalled silent.ignoresSignals wake.delay wake.tie world
    obtain ⟨time, ⟨comes, _⟩, waited⟩ | ⟨_, waited⟩ :=
      Sim.waitUnlessSignalled_cases wake.delay wake.tie world
    · left
      have declines := decline_declines silent (wait_halts comes)
      rw [waited] at waits
      constructor
      · simp [waited, waits, declines.only]
      · simp [waited, declines.value]
      · simpa [waited] using declines.signal
    · right
      rw [waited] at waits
      refine ⟨(Sim.wait wake.delay world).world, ?_, ?_, ?_⟩
      · simp [waited]
      · simp [waited]
      · simp [waited, waits]

/-- A turn for which nothing arrives declines, or it is stuck. -/
theorem turn_none_cases (silent : IsSilent keep) (consumer : Consumer) (world : World) :
    Declines keep (turn consumer none world) ∨
    turn consumer none world = ⟨[], world, .stuck⟩ := by
  rw [turn, Sim.world_bind]
  cases stopped : world.isStopped with
  | true =>
    left
    have halted : world.signal ≠ .running := by
      have := of_decide_eq_true stopped
      simp [this]
    exact decline_declines silent halted
  | false =>
    simp only [Sim.ite_apply, Sim.world_bind]
    cases comes : world.signalTime? with
    | none => exact .inr rfl
    | some time =>
      left
      have waits := Sim.only_wait silent.ignoresSignals (time - world.now) world
      have declines := decline_declines silent (wait_halts comes)
      have waited := Sim.waitForSignal_apply comes
      constructor
      · simp [waited, waits, declines.only]
      · exact rfl
      · simpa [waited] using declines.signal

/-! ## Blocks -/

namespace Handling

/-- What a loop does with a delivery that it takes. -/
def block (consumer : Consumer) (handling : Handling) : List Occurrence :=
  .took handling.delivery.kind :: handling.deeds consumer

/-- The turn of a loop that takes a delivery: the loop goes on, unless the store has ended. -/
def turn (consumer : Consumer) (handling : Handling) : Turn :=
  match (handling.outcome consumer).fatalError? with
  | some error => .ended (.error (.store error))
  | none => .goesOn

/-- The arrival of a delivery. -/
def arrival (handling : Handling) : Arrival :=
  .delivery handling.delivery handling.store handling.settlement

end Handling

/-- What happens when a delivery is taken. -/
theorem only_take_delivery (ignores : Sim.IgnoresSignals keep) (consumer : Consumer)
    (handling : Handling) (world : World) :
    (take consumer handling.arrival world).journal.only keep =
      (.took handling.delivery.kind :: handling.occurrences consumer).filter keep := by
  have dispatched := only_dispatch ignores consumer handling
    (Sim.happen (.took handling.delivery.kind) world).world
  rw [← List.singleton_append, List.filter_append, ← dispatched, ← Sim.only_happen ignores _ world]
  simp only [take, Handling.arrival, Sim.bind_journal, Journal.only_append, dispatch_value]
  cases (handling.outcome consumer).fatalError? <;> simp

/-- How the loop goes on after a delivery. -/
theorem take_delivery_value (consumer : Consumer) (handling : Handling) (world : World) :
    (take consumer handling.arrival world).value = handling.turn consumer := by
  simp only [take, Handling.arrival, Sim.bind_value, dispatch_value, Handling.turn]
  cases (handling.outcome consumer).fatalError? <;> rfl

/-- The deeds of taking a delivery are its block. -/
theorem deeds_take_delivery (consumer : Consumer) (handling : Handling) (world : World) :
    (take consumer handling.arrival world).journal.deeds = handling.block consumer := by
  rw [Journal.deeds, only_take_delivery isSilent_isDeed.ignoresSignals, List.filter_cons,
    Handling.filter_isDeed_occurrences]
  rfl

/-! ## Loops -/

/-- The signal comes now or later. -/
theorem now_le_signalTime? {world : World} {time : Nat} (comes : world.signalTime? = some time) :
    world.now ≤ time := by
  unfold World.signalTime? at comes
  split at comes
  · obtain ⟨plan, _, rfl⟩ := Option.map_eq_some_iff.mp comes
    exact Nat.le_max_right _ _
  · cases comes
    exact Nat.le_refl _

/-- A loop for which nothing arrives stops as if something would arrive with the signal. -/
theorem turn_none_eq_turn_some (consumer : Consumer) (arrival : Arrival) {world : World}
    {time : Nat} (comes : world.signalTime? = some time) :
    turn consumer none world =
      turn consumer (some ⟨time - world.now, .signal, arrival⟩) world := by
  have later := now_le_signalTime? comes
  have meets : world.now + (time - world.now) = time := by omega
  rw [turn, turn, Sim.world_bind, Sim.world_bind]
  cases world.isStopped with
  | true => rfl
  | false =>
    simp [comes, meets, Sim.bind_apply, Sim.waitForSignal, Sim.waitUnlessSignalled]

/-- A loop for which nothing arrives, not even the signal, waits for ever. -/
theorem turn_none_of_signalTime?_eq_none (consumer : Consumer) {world : World}
    (never : world.signalTime? = none) : turn consumer none world = ⟨[], world, .stuck⟩ := by
  have running : world.isStopped = false := by
    cases signal : world.signal with
    | running => simp [World.isStopped, signal]
    | stopped | abandoned => simp [World.signalTime?, signal] at never
  rw [turn, Sim.world_bind, running]
  simp [never]

/-- A loop on arrivals takes one turn after another. -/
theorem loop_cons (consumer : Consumer) (wake : Wake) (rest : List Wake) (world : World) :
    loop consumer (wake :: rest) world =
      let taken := turn consumer (some wake) world
      match taken.value with
      | .goesOn =>
        let later := loop consumer rest taken.world
        ⟨taken.journal ++ later.journal, later.world, later.value⟩
      | .ended result => ⟨taken.journal, taken.world, { result, unread := rest }⟩
      | .declined | .stuck =>
        ⟨taken.journal, taken.world, { result := .ok (), unread := wake :: rest }⟩ := by
  rw [loop, Sim.bind_apply]
  cases taken : (turn consumer (some wake) world).value <;> simp [taken]

end EventLedger.Consumer

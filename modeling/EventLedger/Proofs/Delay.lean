import EventLedger.Proofs.Timekeeping
import EventLedger.Proofs.Turns

/-!
# Delays

A delay that the signal may end either lasts to its end, or it ends as soon as the worker shall not
go on, `Delayed`. When the worker turns, and when the signal comes, is the same whether it is told
from the beginning of a run or from a later moment.
-/
namespace EventLedger

/-! ## When the wish to go on changes -/

/-- The time from which on a worker shall not go on, as far as a journal tells. -/
def World.turnsAt? (world : World) (journal : Journal) : Option Nat :=
  match world.signal with
  | .running => journal.changes.head?.map Prod.fst
  | .stopped | .abandoned => some world.now

/-- Where the wish to go on has gone before, it changes no more. -/
theorem World.turnsAt?_of_ne_running {world : World} (halted : world.signal ≠ .running)
    (journal : Journal) : world.turnsAt? journal = some world.now := by
  unfold turnsAt?
  cases signal : world.signal with
  | running => exact absurd signal halted
  | stopped | abandoned => rfl

/-- It has then gone by now. -/
theorem World.signalTime?_of_ne_running {world : World} (halted : world.signal ≠ .running) :
    world.signalTime? = some world.now := by
  unfold signalTime?
  split
  · contradiction
  · rfl

/-- A change is noted at its time. -/
theorem Journal.exists_of_mem_changes {journal : Journal} {change : Nat × SignalChange}
    (noted : change ∈ journal.changes) : ∃ entry ∈ journal, entry.time = change.1 := by
  obtain ⟨entry, among, found⟩ := List.mem_filterMap.mp noted
  refine ⟨entry, among, ?_⟩
  split at found
  · cases found
    rfl
  · cases found

/-- A change that comes after some time is noted then, or something has been noted before it that
makes no difference from then on. -/
theorem KeepsTime.turnsAt?_append {α : Type} {world : World} {run : Run α}
    (keeps : KeepsTime world run) {later : Journal} {time : Nat}
    (turns : run.world.turnsAt? later = some time) :
    ∃ earlier, world.turnsAt? (run.journal ++ later) = some earlier ∧ earlier ≤ time ∧
      ∀ moment, run.world.now ≤ moment → max moment earlier = max moment time := by
  have forward := keeps.forward
  by_cases running : world.signal = .running
  · have signal := keeps.signal
    simp only [World.turnsAt?, running, Journal.changes_append] at signal ⊢
    cases changes : run.journal.changes with
    | nil =>
      rw [(Signal.afterAll_running _).mpr changes] at signal
      refine ⟨time, ?_, Nat.le_refl _, fun _ _ => rfl⟩
      simpa [World.turnsAt?, signal] using turns
    | cons change rest =>
      have halted : run.world.signal ≠ .running := by
        rw [signal, Ne, Signal.afterAll_running, changes]
        simp
      rw [World.turnsAt?_of_ne_running halted, Option.some.injEq] at turns
      obtain ⟨entry, among, noted⟩ :=
        Journal.exists_of_mem_changes (changes ▸ List.mem_cons_self : change ∈ run.journal.changes)
      have between := keeps.within entry among
      refine ⟨change.1, rfl, ?_, fun moment _ => ?_⟩ <;> omega
  · have halted : run.world.signal ≠ .running := by
      rwa [keeps.signal, Signal.afterAll_of_ne_running running]
    rw [World.turnsAt?_of_ne_running halted, Option.some.injEq] at turns
    refine ⟨world.now, World.turnsAt?_of_ne_running running _, ?_, fun moment _ => ?_⟩ <;> omega

/-- What has been noted once is not noted later. -/
theorem World.turnsAt?_append_of_some {world : World} {journal : Journal} {time : Nat}
    (turns : world.turnsAt? journal = some time) (more : Journal) :
    world.turnsAt? (journal ++ more) = some time := by
  by_cases running : world.signal = .running
  · simp only [turnsAt?, running, Journal.changes_append] at turns ⊢
    obtain ⟨change, noted, rfl⟩ := Option.map_eq_some_iff.mp turns
    rw [List.head?_append, noted]
    rfl
  · rw [turnsAt?_of_ne_running running] at turns ⊢
    exact turns

/-- A signal that comes does not come later because some time passes. -/
theorem KeepsTime.signalTime?_le {α : Type} {world : World} {run : Run α}
    (keeps : KeepsTime world run) {time : Nat} (comes : world.signalTime? = some time) :
    ∃ later, run.world.signalTime? = some later ∧ later ≤ max time run.world.now := by
  have forward := keeps.forward
  by_cases running : run.world.signal = .running
  · have signal := keeps.signal
    have begun : world.signal = .running := by
      refine Decidable.byContradiction fun halted => ?_
      rw [Signal.afterAll_of_ne_running halted] at signal
      exact halted (signal.symm.trans running)
    rw [running, begun, eq_comm, Signal.afterAll_running] at signal
    simp only [World.signalTime?, begun, Option.map_eq_some_iff] at comes
    obtain ⟨plan, planned, rfl⟩ := comes
    cases keeps.planned with
    | ahead same _ =>
      refine ⟨max plan.1 run.world.now, ?_, by omega⟩
      simp [World.signalTime?, running, same, planned]
    | done _ _ _ noted => simp [signal] at noted
  · exact ⟨_, World.signalTime?_of_ne_running running, Nat.le_max_right _ _⟩

/-- A planned stop lies ahead, or a stop has been asked for. -/
theorem KeepsTime.stopped_or_planned {α : Type} {world : World} {run : Run α}
    (keeps : KeepsTime world run) (running : world.signal = .running) {time : Nat}
    (planned : world.planned = some (time, .stop)) :
    run.world.signal = .stopped ∨
      run.world.signal = .running ∧ run.world.planned = some (time, .stop) := by
  cases signal : run.world.signal with
  | stopped => exact .inl rfl
  | running =>
    refine .inr ⟨rfl, ?_⟩
    have unchanged := keeps.signal
    rw [signal, running, eq_comm, Signal.afterAll_running] at unchanged
    cases keeps.planned with
    | ahead same _ => exact same.trans planned
    | done _ _ _ noted => simp [unchanged] at noted
  | abandoned =>
    have left := keeps.signal
    rw [signal, running] at left
    obtain ⟨noted, among⟩ := Signal.exists_abandon_of_afterAll left.symm
    obtain ⟨other, plan⟩ := keeps.abandons noted among
    rw [planned] at plan
    cases plan

/-! ## The delay between attempts -/

/-- What the delay after a failed attempt can be. -/
structure Delayed (delay : Nat) (world : World) (run : Run Bool) : Prop where
  /-- It keeps time. -/
  keeps : KeepsTime world run
  /-- If the signal is noticed, the worker shall not go on. -/
  halts : run.value = true → run.world.signal ≠ .running
  /-- Otherwise the delay lasts to its end. -/
  lasts : run.value = false → run.world.now = world.now + delay
  /-- If the worker shall not go on, the delay ends as soon as that is so. -/
  turned : run.world.signal ≠ .running → ∃ time, world.turnsAt? run.journal = some time ∧
    time ≤ world.now + delay ∧ run.world.now = max world.now time
  /-- What is still planned after it lies ahead. -/
  ahead : ∀ time change, run.value = false → run.world.planned = some (time, change) →
    run.world.now < time
  /-- A signal before its end is noticed. -/
  noticed : ∀ time, world.signalTime? = some time → time < world.now + delay → run.value = true

/-- A wait that ends with the signal ends when the wish to go on changes. -/
theorem turnsAt?_wait {world : World} {time : Nat} (comes : world.signalTime? = some time) :
    world.turnsAt? (Sim.wait (time - world.now) world).journal = some time := by
  have later := Consumer.now_le_signalTime? comes
  by_cases running : world.signal = .running
  · simp only [World.signalTime?, running, Option.map_eq_some_iff] at comes
    obtain ⟨⟨moment, change⟩, plan, rfl⟩ := comes
    have due : moment ≤ world.now + (max moment world.now - world.now) := by omega
    simp only [World.turnsAt?, running, Sim.wait, plan]
    rw [if_pos due]
    rfl
  · rw [World.turnsAt?_of_ne_running running, ← World.signalTime?_of_ne_running running, comes]

/-- After a wait, what is planned lies ahead. -/
theorem now_lt_of_planned_wait {millis : Nat} {world : World} {time : Nat} {change : SignalChange}
    (planned : (Sim.wait millis world).world.planned = some (time, change)) :
    (Sim.wait millis world).world.now < time := by
  unfold Sim.wait at planned ⊢
  cases plan : world.planned with
  | none => simp [plan] at planned
  | some next =>
    simp only [plan] at planned ⊢
    split at planned
    · cases planned
    · rename_i early
      simp only [early, ↓reduceIte]
      cases planned
      exact Nat.lt_of_not_le early

/-- A worker that shall not go on after a wait has been signalled before its end. -/
theorem signalTime?_of_wait_halts {millis : Nat} {world : World}
    (halted : (Sim.wait millis world).world.signal ≠ .running) :
    ∃ time, world.signalTime? = some time ∧
      world.turnsAt? (Sim.wait millis world).journal = some time ∧
      time ≤ world.now + millis := by
  by_cases running : world.signal = .running
  · unfold Sim.wait at halted ⊢
    cases plan : world.planned with
    | none => simp [plan, running] at halted
    | some next =>
      simp only [plan] at halted ⊢
      split at halted
      · rename_i due
        simp only [due, ↓reduceIte, World.signalTime?, World.turnsAt?, running, plan,
          Journal.changes]
        exact ⟨max next.1 world.now, rfl, rfl, by omega⟩
      · exact absurd running halted
  · exact ⟨world.now, World.signalTime?_of_ne_running running,
      World.turnsAt?_of_ne_running running _, Nat.le_add_right _ _⟩

/-- A wait that the signal may end is such a delay. -/
theorem delayed_waitUnlessSignalled (delay : Nat) (tie : Sim.Tie) (world : World) :
    Delayed delay world (Sim.waitUnlessSignalled delay tie world) := by
  have keeps := Sim.Orderly.waitUnlessSignalled delay tie world
  obtain ⟨time, ⟨comes, due⟩, waited⟩ | ⟨goesOn, waited⟩ :=
    Sim.waitUnlessSignalled_cases delay tie world
  · have later := Consumer.now_le_signalTime? comes
    have now : world.now + (time - world.now) = time := by omega
    rw [waited] at keeps ⊢
    refine ⟨keeps, fun _ => Consumer.wait_halts comes, nofun, fun _ => ?_, nofun, fun _ _ _ => rfl⟩
    refine ⟨time, turnsAt?_wait comes, by omega, ?_⟩
    rw [Sim.wait_now]
    omega
  · rw [waited] at keeps ⊢
    refine ⟨keeps, nofun, fun _ => Sim.wait_now _ _, fun halted => ?_,
      fun time change _ planned => now_lt_of_planned_wait planned, fun time comes early => ?_⟩
    · obtain ⟨time, comes, turns, inTime⟩ := signalTime?_of_wait_halts halted
      have late : ¬time < world.now + delay := fun early => goesOn time ⟨comes, .inl early⟩
      have later := Consumer.now_le_signalTime? comes
      refine ⟨time, turns, inTime, ?_⟩
      rw [Sim.wait_now]
      omega
    · exact absurd ⟨comes, .inl early⟩ (goesOn time)

namespace Delayed

variable {α : Type} {delay : Nat} {world : World} {first : Run α} {waited : Run Bool}

/-- When the worker turns after which a delay begins or in it. -/
theorem turned_after (delayed : Delayed delay first.world waited)
    (keeps : KeepsTime world first) (halted : waited.world.signal ≠ .running) :
    ∃ time, world.turnsAt? (first.journal ++ waited.journal) = some time ∧
      time ≤ first.world.now + delay ∧ waited.world.now = max first.world.now time := by
  obtain ⟨time, turns, inTime, now⟩ := delayed.turned halted
  obtain ⟨earlier, turned, before, same⟩ := keeps.turnsAt?_append turns
  refine ⟨earlier, turned, Nat.le_trans before inTime, ?_⟩
  rw [now, same first.world.now (Nat.le_refl _)]

/-- A signal that comes before the end of a delay is noticed, whenever it comes. -/
theorem noticed_after (delayed : Delayed delay first.world waited)
    (keeps : KeepsTime world first) (positive : 0 < delay) {time : Nat}
    (comes : world.signalTime? = some time) (early : time < first.world.now + delay) :
    waited.value = true := by
  obtain ⟨later, coming, before⟩ := keeps.signalTime?_le comes
  exact delayed.noticed later coming (by omega)

end Delayed

end EventLedger

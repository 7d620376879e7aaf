import EventLedger.Journal

/-!
# Runs on a simulated clock

A run goes from a world to a journal, a later world and a value. The world is the time, the wish
to go on, the change of that wish which the operator plans, and the log record at which a stop is
asked for. Time passes only while something waits; a planned change happens at its time, also in
the middle of a wait.
-/
namespace EventLedger

/-- The wish to go on, as the worker sees it. -/
inductive Signal where
  /-- The worker shall go on. -/
  | running
  /-- The worker shall stop. -/
  | stopped
  /-- The worker shall go on, and nobody can ask it to stop any more. -/
  | abandoned
  deriving DecidableEq, Repr

/-- The wish after a change; a change after the first one has no effect. -/
def Signal.after (signal : Signal) (change : SignalChange) : Signal :=
  match signal, change with
  | .running, .stop => .stopped
  | .running, .abandon => .abandoned
  | _, _ => signal

/-- The surroundings of a run. -/
structure World where
  /-- The time in milliseconds. -/
  now : Nat
  /-- The wish to go on. -/
  signal : Signal
  /-- The change that the operator plans, and its time. -/
  planned : Option (Nat × SignalChange)
  /-- Whether a stop is asked for as soon as a record is logged. -/
  stopsAt : Log.Record → Bool

namespace World

/-- The beginning of a run that nobody plans to stop. -/
def start : World := { now := 0, signal := .running, planned := none, stopsAt := fun _ => false }

/-- The time at which a wait for the signal ends, if nothing unplanned happens. -/
def signalTime? (world : World) : Option Nat :=
  match world.signal with
  | .running => world.planned.map fun plan => max plan.1 world.now
  | _ => some world.now

/-- Whether the worker has been asked to stop. -/
def isStopped (world : World) : Bool := world.signal = .stopped

end World

/-- What comes of a run. -/
structure Run (α : Type) where
  /-- What happened. -/
  journal : Journal
  /-- The world afterwards. -/
  world : World
  /-- The value that was computed. -/
  value : α

/-- A run that begins in any world. -/
def Sim (α : Type) := World → Run α

namespace Sim

variable {α β : Type}

/-- Nothing happens. -/
protected def pure (value : α) : Sim α := fun world => ⟨[], world, value⟩

/-- One run after another. -/
protected def bind (first : Sim α) (next : α → Sim β) : Sim β := fun world =>
  let run := first world
  let rest := next run.value run.world
  ⟨run.journal ++ rest.journal, rest.world, rest.value⟩

/-- Runs are put one after another, and what one comes to is handed to the next. -/
instance : Monad Sim where
  pure := Sim.pure
  bind := Sim.bind

/-- Look at the world. -/
def world : Sim World := fun world => ⟨[], world, world⟩

/-- The world with a change of the wish to go on. -/
def changed (world : World) (change : SignalChange) : World :=
  { world with signal := world.signal.after change }

/-- Change the wish to go on, now. -/
def signal (change : SignalChange) (source : SignalSource) : Sim Unit := fun world =>
  ⟨[⟨world.now, .signalled change source⟩], changed world change, ()⟩

/-- Something happens, now. If it is logged, a stop may be asked for at once. -/
def happen (what : Occurrence) : Sim Unit := fun world =>
  let entry : Entry := ⟨world.now, what⟩
  match what with
  | .logged record =>
    if world.stopsAt record then
      ⟨[entry, ⟨world.now, .signalled .stop .surroundings⟩], changed world .stop, ()⟩
    else ⟨[entry], world, ()⟩
  | _ => ⟨[entry], world, ()⟩

/-- Things happen one after another, now. -/
def happenAll : List Occurrence → Sim Unit
  | [] => pure ()
  | what :: rest => do
    happen what
    happenAll rest

/-- Something is logged outside of every span. -/
def log (level : Log.Level) (target message : String) (fields : Log.Fields) : Sim Unit :=
  happen (.logged { level, target, message, fields, span := none })

/-- Ask for a stop, if `wanted`. -/
def stopIf (wanted : Bool) : Sim Unit :=
  if wanted then signal .stop .surroundings else pure ()

/-- Let time pass. A change planned for that time happens. -/
def wait (millis : Nat) : Sim Unit := fun world =>
  let later := world.now + millis
  match world.planned with
  | none => ⟨[], { world with now := later }, ()⟩
  | some (time, change) =>
    if time ≤ later then
      let changedWorld := changed { world with planned := none, now := later } change
      ⟨[⟨max time world.now, .signalled change .operator⟩], changedWorld, ()⟩
    else ⟨[], { world with now := later }, ()⟩

/-- Which of two things that happen at the same moment is noticed. -/
inductive Tie where
  /-- The signal. -/
  | signal
  /-- The other one. -/
  | other
  deriving DecidableEq, Repr

/-- Wait until so many milliseconds are over or the signal comes, and tell whether it came. -/
def waitUnlessSignalled (millis : Nat) (tie : Tie) : Sim Bool := do
  let world ← world
  let later := world.now + millis
  match world.signalTime? with
  | none =>
    wait millis
    return false
  | some time =>
    if time < later || (time = later && tie = .signal) then
      wait (time - world.now)
      return true
    else
      wait millis
      return false

/-- Wait for the signal; if nobody plans to give it, the wait is over at once. -/
def waitForSignal : Sim Unit := do
  let world ← world
  match world.signalTime? with
  | none => pure ()
  | some time => wait (time - world.now)

end Sim

end EventLedger

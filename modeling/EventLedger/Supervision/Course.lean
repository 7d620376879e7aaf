import EventLedger.Supervision

/-!
# Courses of supervision

A course is what a supervisor does with attempts that are numbered without end. It is watched for a
number of attempts, so that a course of any length can be spoken of, and an attempt may not have
ended yet as far as it is watched.
-/
namespace EventLedger.Supervision

variable {α : Type}

/-- Note how an attempt has ended, if it has. -/
def noteEnd : Option (Except WorkerError Unit) → Sim (Option (Except WorkerError Unit))
  | none => pure none
  | some result => do
    Sim.happen (.attemptEnded result)
    return some result

/-- Run one attempt as far as it is watched; nothing comes of one that has not ended. -/
def watchAttempt (runOnce : α → Sim (Option (Except WorkerError Unit))) (session : α) :
    Sim (Option (Except WorkerError Unit)) := do
  Sim.happen .attemptStarted
  noteEnd (← runOnce session)

/-- Watch supervision end. -/
def watchEnd (ended : Sim (SupervisionEnd × List (Attempt α))) : Sim (Option SupervisionEnd) := do
  let (ending, _) ← ended
  return some ending

/-- Watch the supervision of attempts, from the one of a number on; nothing comes of it as long as
it has not ended. -/
def course (retryDelay : Nat) (runOnce : α → Sim (Option (Except WorkerError Unit)))
    (attempts : Nat → Attempt α) : (watched made : Nat) → Sim (Option SupervisionEnd)
  | 0, _ => do
    if (← Sim.world).isStopped then watchEnd (declined ([] : List (Attempt α)))
    else return none
  | watched + 1, made => do
    if (← Sim.world).isStopped then watchEnd (declined ([] : List (Attempt α)))
    else
      match ← watchAttempt runOnce (attempts made).session with
      | none => return none
      | some (.ok ()) => watchEnd (finished ([] : List (Attempt α)))
      | some (.error error) =>
        reportFailure retryDelay error
        if ← Sim.waitUnlessSignalled retryDelay (attempts made).tie then
          Sim.log .info logTarget "等待重试期间收到关闭信号，worker 已停止" []
          return some .cancelled
        else course retryDelay runOnce attempts watched (made + 1)

end EventLedger.Supervision

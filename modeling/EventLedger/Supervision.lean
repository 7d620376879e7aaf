import EventLedger.Simulation

/-!
# Supervision

Sessions are attempted one after another: an attempt that fails is followed by another one after a
fixed delay, unless the worker is asked to stop before that; an attempt that ends well is the last.
-/
namespace EventLedger

/-- Why supervision ended. -/
inductive SupervisionEnd where
  /-- The last attempt ended well. -/
  | completed
  /-- The worker was asked to stop while no attempt was under way. -/
  | cancelled
  deriving DecidableEq, Repr

namespace Supervision

/-- The component that logs. -/
def logTarget : String := "minichat_worker::supervisor"

/-- An attempt, and what is noticed if the delay after it ends as the signal comes. -/
structure Attempt (α : Type) where
  /-- What is attempted. -/
  session : α
  /-- What is noticed first. -/
  tie : Sim.Tie

/-- Run one attempt. -/
def attempt {α : Type} (runOnce : α → Sim (Except WorkerError Unit)) (session : α) :
    Sim (Except WorkerError Unit) := do
  Sim.happen .attemptStarted
  let result ← runOnce session
  Sim.happen (.attemptEnded result)
  return result

/-- Say why an attempt failed, and count it. -/
def reportFailure (retryDelay : Nat) (error : WorkerError) : Sim Unit := do
  Sim.log .error logTarget "消费循环失败，稍后重试"
    [("error", error.message), ("retry_delay_ms", toString retryDelay)]
  Sim.happen .failureCounted

/-- Say that no attempt is made because the worker has been asked to stop. -/
def declined {α : Type} (unmade : List (Attempt α)) :
    Sim (SupervisionEnd × List (Attempt α)) := do
  Sim.log .info logTarget "worker 已停止" []
  return (.cancelled, unmade)

/-- Say that the last attempt ended well. -/
def finished {α : Type} (unmade : List (Attempt α)) :
    Sim (SupervisionEnd × List (Attempt α)) := do
  Sim.log .info logTarget "worker 正常退出" []
  return (.completed, unmade)

/-- Attempt sessions until one ends well or the worker is asked to stop; the attempts that were
not made are left over. When no session is left, an attempt ends well at once. -/
def supervise {α : Type} (retryDelay : Nat) (runOnce : α → Sim (Except WorkerError Unit)) :
    List (Attempt α) → Sim (SupervisionEnd × List (Attempt α))
  | [] => do
    if (← Sim.world).isStopped then
      declined []
    else
      Sim.happen .attemptStarted
      Sim.happen (.attemptEnded (.ok ()))
      finished []
  | next :: rest => do
    if (← Sim.world).isStopped then
      declined (next :: rest)
    else
      match ← attempt runOnce next.session with
      | .ok () => finished rest
      | .error error =>
        reportFailure retryDelay error
        if ← Sim.waitUnlessSignalled retryDelay next.tie then
          Sim.log .info logTarget "等待重试期间收到关闭信号，worker 已停止" []
          return (.cancelled, rest)
        else supervise retryDelay runOnce rest

end Supervision

end EventLedger

import EventLedger.Consumer.Loop

/-!
# Sessions with the broker

A session sends the requests of its set-up one after another and ends at the first one that is
refused. When all are granted, it consumes what arrives. However it ends, the channel and the
connection are closed if they were there.
-/
namespace EventLedger.Broker

/-- What a session meets. -/
structure Session where
  /-- The place of the request that is refused, counted from zero, if one is. -/
  refusedAt : Option Nat
  /-- What wakes the consumer after the set-up. -/
  wakes : List Consumer.Wake

namespace Session

/-- The component that talks to the broker. -/
def logTarget : String := "minichat_worker::broker"

/-- The requests of a set-up up to the one that is refused, and that one. -/
def granted (requests : List Request) : (refusedAt : Option Nat) → List Request × Option Request
  | none => (requests, none)
  | some place => (requests.take place, requests[place]?)

/-- Say that a request was granted. -/
def reportGranted : Request → Sim Unit
  | .connect _ | .limit _ => pure ()
  | .channel => Sim.log .info logTarget "RabbitMQ 连接已建立" []
  | .declare queue _ => Sim.log .debug logTarget "队列已声明" [("queue", queue)]
  | .consume queue _ _ => Sim.log .info logTarget "已订阅队列" [("queue", queue)]

/-- Send requests that are granted. -/
def sendGranted : List Request → Sim Unit
  | [] => pure ()
  | request :: rest => do
    Sim.happen (.requested request)
    reportGranted request
    sendGranted rest

/-- Why the channel and the connection cannot be closed properly, if so. -/
structure Unclosed where
  /-- Why not the channel. -/
  channel : Option String
  /-- Why not the connection. -/
  connection : Option String
  deriving DecidableEq, Repr

/-- Both are closed properly. -/
def Unclosed.nothing : Unclosed := { channel := none, connection := none }

/-- Warn of what cannot be closed, if so. -/
def warn (message : String) : Option String → Sim Unit
  | none => pure ()
  | some error => Sim.log .warn logTarget message [("error", error)]

/-- Close the channel and the connection. If one of them cannot be closed, that is only said. -/
def close (unclosed : Unclosed) : Sim Unit := do
  warn "关闭 RabbitMQ 通道失败" unclosed.channel
  warn "关闭 RabbitMQ 连接失败" unclosed.connection
  Sim.happen .sessionClosed
  Sim.log .info logTarget "RabbitMQ 连接已关闭" []

/-- Say that the set-up is done. -/
def reportStart (consumer : Consumer) (prefetch : UInt16) : Sim Unit :=
  Sim.log .info Consumer.logTarget "worker 消费者已启动"
    [("usage_queue", consumer.usageQueue), ("audit_queue", consumer.auditQueue),
      ("prefetch", toString prefetch)]

/-- Whether a request is sent before there is a channel. -/
def precedesChannel (request : Request) : Bool :=
  request.kind = .connect || request.kind = .channel

/-- End a session at a request that is refused. -/
def endRefused (request : Request) : Sim (Except WorkerError Unit) := do
  Sim.happen (.requested request)
  if !precedesChannel request then close .nothing
  return .error (.broker "request refused")

/-- Consume what arrives after the set-up. -/
def consume (consumer : Consumer) (prefetch : UInt16) (wakes : List Consumer.Wake) :
    Sim (Except WorkerError Unit) := do
  reportStart consumer prefetch
  let done ← consumer.loop wakes
  close .nothing
  return done.result

/-- Run a session. -/
def run (consumer : Consumer) (prefetch : UInt16) (session : Session) :
    Sim (Except WorkerError Unit) := do
  let requests := setUp prefetch consumer.virtualHost consumer.usageQueue consumer.auditQueue
  let (sent, refused) := granted requests session.refusedAt
  sendGranted sent
  match refused with
  | some request => endRefused request
  | none => consume consumer prefetch session.wakes

end Session

end EventLedger.Broker

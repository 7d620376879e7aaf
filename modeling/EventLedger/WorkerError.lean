import EventLedger.StoreError

/-!
# Why a session with the broker ended

The worker consumes its queues in sessions. A session that does not end on request ends with one
of these errors.
-/
namespace EventLedger

/-- Why a session ended. -/
inductive WorkerError where
  /-- The broker cannot be reached or refused a request. -/
  | broker (reason : String)
  /-- The deliveries of a queue ended. -/
  | streamClosed (queue : String)
  /-- The deliveries of a queue failed. -/
  | consume (queue reason : String)
  /-- A settlement failed. -/
  | settlement (reason : String)
  /-- The store failed for good. -/
  | store (error : StoreError)
  deriving DecidableEq, Repr

namespace WorkerError

/-- The error of a connection to the broker that failed below the protocol. -/
def ofBrokerIo (detail : String) : WorkerError := .broker ("IO error: " ++ detail)

/-- What is shown of the error. -/
def message : WorkerError → String
  | .broker reason => "RabbitMQ 错误: " ++ reason
  | .streamClosed queue => "消息流意外关闭: queue=" ++ queue
  | .consume queue reason => "接收消息失败: queue=" ++ queue ++ ", 原因=" ++ reason
  | .settlement reason => "消息确认失败: " ++ reason
  | .store error => error.message

end WorkerError

end EventLedger

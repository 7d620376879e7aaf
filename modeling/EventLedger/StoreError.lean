import EventLedger.DatabaseError
import EventLedger.Duration
import EventLedger.Event

/-!
# Why an event was not stored

A failure to store an event is one of four: it may pass when the event is delivered again, it
never passes, the store has ended for good, or the time for the event ran out. Usage events are
worth another try after every failure of the database but its end; an audit event whose user does
not exist can never be stored.
-/
namespace EventLedger

/-- Why an event was not stored. -/
inductive StoreError where
  /-- Another delivery may succeed. -/
  | retriable (cause : DatabaseError)
  /-- No delivery can succeed. -/
  | rejected (cause : DatabaseError)
  /-- The store has ended. -/
  | fatal (cause : DatabaseError)
  /-- The time for the event ran out. -/
  | timeout (limit : Duration)
  deriving DecidableEq, Repr

namespace StoreError

/-- What a failure of the database means for a usage event. -/
def ofUsageFailure : DatabaseError → StoreError
  | .poolClosed => .fatal .poolClosed
  | cause => .retriable cause

/-- What a failure of the database means for an audit event. -/
def ofAuditFailure : DatabaseError → StoreError
  | .refused .foreignKey detail => .rejected (.refused .foreignKey detail)
  | cause => ofUsageFailure cause

/-- What a failure of the database means for an event of a kind. -/
def ofFailure : EventKind → DatabaseError → StoreError
  | .usage => ofUsageFailure
  | .audit => ofAuditFailure

/-- Whether the event can never be stored. -/
def isTerminal : StoreError → Bool
  | .rejected _ => true
  | _ => false

/-- Whether the store has ended. -/
def isFatal : StoreError → Bool
  | .fatal _ => true
  | _ => false

/-- The failure of the database behind the error, if there is one. -/
def cause? : StoreError → Option DatabaseError
  | .retriable cause | .rejected cause | .fatal cause => some cause
  | .timeout _ => none

/-- What is shown of the error. -/
def message : StoreError → String
  | .retriable cause => "持久化失败，可重试: " ++ cause.message
  | .rejected cause => "引用的用户不存在，事件被拒绝: " ++ cause.message
  | .fatal cause => "数据库连接池已关闭: " ++ cause.message
  | .timeout limit => "消息处理超时: " ++ limit.text

end StoreError

end EventLedger

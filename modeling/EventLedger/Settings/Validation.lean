import EventLedger.ServiceError
import EventLedger.Settings

/-!
# Settings that make sense

Both queues have names, and different ones; at least one delivery may be unsettled; and a message
may take some time. The first setting that breaks a rule is named.
-/
namespace EventLedger.Settings

/-- Refuse a setting, if it breaks a rule. -/
def refuse (broken : Bool) (field reason : String) : Except ServiceError Unit :=
  if broken then .error (.invalidSetting field reason) else .ok ()

/-- Check all rules, in order. -/
def validate (settings : Settings) : Except ServiceError Unit := do
  let broker := settings.broker
  refuse (broker.usageQueue = "") "rabbitmq.usage_queue" "队列名不能为空"
  refuse (broker.auditQueue = "") "rabbitmq.audit_queue" "队列名不能为空"
  refuse (broker.usageQueue = broker.auditQueue) "rabbitmq.audit_queue" "两个队列不能同名"
  refuse (broker.prefetch = 0) "rabbitmq.prefetch_count" "必须大于 0"
  refuse (settings.worker.handleTimeoutMillis = 0) "worker.handle_timeout_ms" "必须大于 0"

end EventLedger.Settings

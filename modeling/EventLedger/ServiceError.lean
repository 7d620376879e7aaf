import EventLedger.DatabaseError
import EventLedger.Duration

/-!
# Why the service cannot work

The failures of what the service stands on: its database and its settings.
-/
namespace EventLedger

/-- Why the service cannot work. -/
inductive ServiceError where
  /-- The database failed. -/
  | database (cause : DatabaseError)
  /-- The database did not answer in time. -/
  | healthCheckTimeout (limit : Duration)
  /-- The settings cannot be read. -/
  | unreadableSettings (reason : String)
  /-- A setting makes no sense. -/
  | invalidSetting (field reason : String)
  deriving DecidableEq, Repr

namespace ServiceError

/-- A fixed code for the kind of error. -/
def code : ServiceError → String
  | .database _ => "DATABASE_ERROR"
  | .healthCheckTimeout _ => "HEALTH_CHECK_TIMEOUT"
  | .unreadableSettings _ => "CONFIG_ERROR"
  | .invalidSetting _ _ => "INVALID_CONFIG"

/-- Whether the error may pass. -/
def isRetryable : ServiceError → Bool
  | .database _ | .healthCheckTimeout _ => true
  | .unreadableSettings _ | .invalidSetting _ _ => false

/-- What is shown of the error. -/
def message : ServiceError → String
  | .database cause => "数据库错误: " ++ cause.message
  | .healthCheckTimeout limit => "数据库健康检查超时: " ++ limit.text
  | .unreadableSettings reason => "配置加载失败: " ++ reason
  | .invalidSetting field reason => "无效的配置项: " ++ field ++ " - " ++ reason

end ServiceError

end EventLedger

import EventLedger.Text.Quoted

/-!
# Why a body is no event

A body is refused for the first of five reasons. Texts of the body are quoted in the message, so
that nothing in them can be mistaken for part of it.
-/
namespace EventLedger

/-- Why a body is no event. -/
inductive ValidationError where
  /-- The document cannot be read. -/
  | malformed (detail : String)
  /-- The document says that it is of another type. -/
  | wrongType (expected actual : String)
  /-- The text of a field spells no UUID. -/
  | badId (field value : String)
  /-- A number of tokens is negative. -/
  | negativeTokens (input output : Int)
  /-- A field that must hold a text is missing or empty. -/
  | missingField (name : String)
  deriving DecidableEq, Repr

namespace ValidationError

/-- A fixed word for the reason. -/
def reason : ValidationError → String
  | .malformed _ => "decode"
  | .wrongType _ _ => "wrong_type"
  | .badId _ _ => "bad_id"
  | .negativeTokens _ _ => "negative_tokens"
  | .missingField _ => "missing_field"

/-- What is shown of the error. -/
def message : ValidationError → String
  | .malformed detail => "负载解码失败: " ++ detail
  | .wrongType expected actual =>
    "事件类型不匹配: 期望 " ++ expected ++ ", 实际 " ++ Text.quoted actual
  | .badId field value => "无效的 UUID 字段: " ++ field ++ "=" ++ Text.quoted value
  | .negativeTokens input output =>
    "token 数不能为负: input=" ++ toString input ++ ", output=" ++ toString output
  | .missingField name => "缺少必填字段: " ++ name

end ValidationError

end EventLedger

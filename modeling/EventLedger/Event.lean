import EventLedger.Json.Value
import EventLedger.Uuid
import EventLedger.Word

/-!
# Events

Two kinds of event are recorded: how many tokens a generation used, and what a user did. A count
of tokens fits a signed word of 64 bits and is not negative, which its type says.
-/
namespace EventLedger

/-- The kinds of event; each has a queue of its own. -/
inductive EventKind where
  /-- Token usage. -/
  | usage
  /-- User actions. -/
  | audit
  deriving DecidableEq, Repr

/-- A number of tokens. -/
structure TokenCount where
  /-- The number. -/
  value : Nat
  /-- A signed word of 64 bits holds it. -/
  fits : value < Word.signWeight
  deriving DecidableEq, Repr

/-- The count of a whole number, if it is one. -/
def TokenCount.ofInt? (value : Int) : Option TokenCount :=
  if h : value.toNat < Word.signWeight then
    if 0 ≤ value then some ⟨value.toNat, h⟩ else none
  else none

/-- The tokens that one generation used. -/
structure UsageEvent where
  /-- Who asked for the generation. -/
  userId : Uuid
  /-- The generation. -/
  generationId : Uuid
  /-- The tokens read. -/
  inputTokens : TokenCount
  /-- The tokens written. -/
  outputTokens : TokenCount
  /-- The model that was used. -/
  model : String
  deriving DecidableEq, Repr

/-- An action of a user. -/
structure AuditEvent where
  /-- Who acted; nobody for an anonymous action. -/
  userId : Option Uuid
  /-- What was done. -/
  action : String
  /-- Details in the words of the publisher. -/
  metadata : Json.Value
  deriving Repr

/-- An event of either kind. -/
inductive Event where
  /-- Token usage. -/
  | usage (event : UsageEvent)
  /-- A user's action. -/
  | audit (event : AuditEvent)
  deriving Repr

/-- The kind of an event. -/
def Event.kind : Event → EventKind
  | .usage _ => .usage
  | .audit _ => .audit

end EventLedger

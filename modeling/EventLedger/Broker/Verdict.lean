import EventLedger.Journal

/-!
# Verdicts

What a queue is told about a delivery goes to the broker as a verdict on the number of the delivery.
A verdict could stand for all deliveries up to that one; those of the worker never do.
-/
namespace EventLedger

namespace Broker

/-- What the broker is told about a delivery, or about all up to it. -/
inductive Verdict where
  /-- It is done with. -/
  | ack (tag : Nat) (multiple : Bool)
  /-- It is refused, and goes back into its queue or is thrown away. -/
  | nack (tag : Nat) (multiple requeue : Bool)
  deriving DecidableEq, Repr

namespace Verdict

/-- The number of the delivery. -/
def tag : Verdict → Nat
  | .ack tag _ | .nack tag _ _ => tag

/-- Whether the verdict stands for all deliveries up to that one. -/
def multiple : Verdict → Bool
  | .ack _ multiple | .nack _ multiple _ => multiple

/-- The verdict that tells the broker what is decided about a delivery. -/
def of (tag : Nat) : Decision → Verdict
  | .acknowledge => .ack tag false
  | .requeue => .nack tag false true
  | .drop => .nack tag false false

/-- A verdict is about the delivery with that tag. -/
@[simp]
theorem tag_of (tag : Nat) (decision : Decision) : (of tag decision).tag = tag := by
  cases decision <;> rfl

/-- It is about that delivery alone. -/
@[simp]
theorem multiple_of (tag : Nat) (decision : Decision) : (of tag decision).multiple = false := by
  cases decision <;> rfl

end Verdict

end Broker

/-- The verdicts that the broker is told. -/
def Journal.verdicts (journal : Journal) : List Broker.Verdict :=
  journal.settlements.map fun settlement => .of settlement.1 settlement.2

end EventLedger

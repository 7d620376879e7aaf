import EventLedger.Broker.Queues

/-!
# What a broker goes on holding

A message stays with the broker whatever happens, but for a settlement of its own delivery that
does not put it back. Tags tell the deliveries of a session apart, so that a settlement is about
the message that was delivered under its tag.
-/
namespace EventLedger.Broker.Queues

variable {queues : Queues} {message : Message}

/-- The deliveries of a session are told apart by their tags. -/
structure Tidy (queues : Queues) : Prop where
  /-- A tag belongs to one delivery. -/
  tags : ∀ first ∈ queues.delivered, ∀ second ∈ queues.delivered,
    first.tag = second.tag → first = second
  /-- Tags are counted up. -/
  bound : ∀ shipment ∈ queues.delivered, shipment.tag ≤ queues.delivered.length
  /-- What is not settled has been delivered. -/
  known : ∀ shipment ∈ queues.unsettled, shipment ∈ queues.delivered

namespace Tidy

/-- A broker that holds nothing is tidy. -/
theorem empty : Tidy .empty := ⟨nofun, nofun, nofun⟩

/-- Publishing delivers nothing. -/
theorem publish (tidy : queues.Tidy) (kind : EventKind) (body : Json.Bytes) :
    (queues.publish kind body).Tidy := ⟨tidy.tags, tidy.bound, tidy.known⟩

/-- After the end of a session, everything that was delivered is settled or put back. -/
theorem endSession (tidy : queues.Tidy) : queues.endSession.Tidy :=
  ⟨tidy.tags, tidy.bound, nofun⟩

/-- A new session begins without deliveries. -/
theorem beginSession (queues : Queues) : queues.beginSession.Tidy := ⟨nofun, nofun, nofun⟩

/-- A settlement leaves deliveries as they are. -/
theorem settle (tidy : queues.Tidy) (tag : Nat) (decision : Decision) :
    (queues.settle tag decision).Tidy := by
  have rest : ∀ shipment ∈ queues.unsettled.filter (fun shipment => shipment.tag ≠ tag),
      shipment ∈ queues.delivered := by
    intro shipment among
    exact tidy.known shipment (List.mem_filter.mp among).1
  cases decision <;> exact ⟨tidy.tags, tidy.bound, rest⟩

/-- A new delivery has a new tag. -/
theorem deliver (tidy : queues.Tidy) (place : Nat) : (queues.deliver place).Tidy := by
  unfold Queues.deliver
  split
  · rename_i message _
    split
    · let shipment : Shipment := { tag := queues.delivered.length + 1, message }
      have fresh : ∀ earlier ∈ queues.delivered, earlier.tag ≠ shipment.tag := by
        intro earlier among
        have bounded := tidy.bound earlier among
        change earlier.tag ≠ queues.delivered.length + 1
        omega
      constructor
      · intro first firstAmong second secondAmong same
        rcases List.mem_append.mp firstAmong with earlier | new <;>
          rcases List.mem_append.mp secondAmong with other | otherNew
        · exact tidy.tags first earlier second other same
        · rw [List.mem_singleton.mp otherNew] at same
          exact absurd same (fresh first earlier)
        · rw [List.mem_singleton.mp new] at same
          exact absurd same.symm (fresh second other)
        · rw [List.mem_singleton.mp new, List.mem_singleton.mp otherNew]
      · intro other among
        rw [List.length_append, List.length_singleton]
        rcases List.mem_append.mp among with earlier | new
        · have bounded := tidy.bound other earlier
          omega
        · exact Nat.le_of_eq (congrArg Shipment.tag (List.mem_singleton.mp new))
      · intro other among
        rcases List.mem_append.mp among with earlier | new
        · exact List.mem_append_left _ (tidy.known other earlier)
        · exact List.mem_append_right _ new
    · exact tidy
  · exact tidy

end Tidy

/-- A message that is published is held, and the others are held as before. -/
theorem holds_publish (kind : EventKind) (body : Json.Bytes)
    (among : message ∈ (queues.publish kind body).published) :
    (message ∈ queues.published ∧ (queues.Holds message →
      (queues.publish kind body).Holds message)) ∨ (queues.publish kind body).Holds message := by
  rcases List.mem_append.mp among with earlier | new
  · left
    refine ⟨earlier, ?_⟩
    rintro (queued | unsettled)
    · exact .inl (List.mem_append_left _ queued)
    · exact .inr unsettled
  · exact .inr (.inl (List.mem_append_right _ new))

/-- A message that is delivered is still held. -/
theorem Holds.deliver (holds : queues.Holds message) (place : Nat) :
    (queues.deliver place).Holds message := by
  unfold Queues.deliver
  split
  · rename_i next found
    split
    · obtain queued | ⟨shipment, unsettled, same⟩ := holds
      · obtain ⟨index, at_⟩ := List.mem_iff_getElem?.mp queued
        by_cases chosen : index = place
        · rw [chosen, found] at at_
          cases at_
          exact .inr ⟨_, List.mem_append_right _ (List.mem_singleton.mpr rfl), rfl⟩
        · exact .inl (List.mem_eraseIdx_iff_getElem?.mpr ⟨index, chosen, at_⟩)
      · exact .inr ⟨shipment, List.mem_append_left _ unsettled, same⟩
    · exact holds
  · exact holds

/-- When a session ends, every message is still held. -/
theorem Holds.endSession (holds : queues.Holds message) : queues.endSession.Holds message := by
  obtain queued | ⟨shipment, unsettled, same⟩ := holds
  · exact .inl (List.mem_append_right _ queued)
  · exact .inl (List.mem_append_left _ (List.mem_map.mpr ⟨shipment, unsettled, same⟩))

/-- When a session begins, every message is still held. -/
theorem Holds.beginSession (holds : queues.Holds message) : queues.beginSession.Holds message := by
  obtain queued | ⟨_, absurd, _⟩ := holds.endSession
  · exact .inl queued
  · cases absurd

/-- A settlement lets go of no other message than its own, and of that one only if it does not put
it back. -/
theorem Holds.settle (holds : queues.Holds message) (tag : Nat) (decision : Decision) :
    (queues.settle tag decision).Holds message ∨
      decision ≠ .requeue ∧
        ∃ shipment ∈ queues.unsettled, shipment.tag = tag ∧ shipment.message = message := by
  obtain queued | ⟨shipment, unsettled, same⟩ := holds
  · left
    cases decision with
    | acknowledge | drop => exact .inl queued
    | requeue => exact .inl (List.mem_append_right _ queued)
  · by_cases own : shipment.tag = tag
    · cases decision with
      | acknowledge | drop => exact .inr ⟨nofun, shipment, unsettled, own, same⟩
      | requeue =>
        have back : shipment ∈ queues.unsettled.filter fun shipment => shipment.tag = tag :=
          List.mem_filter.mpr ⟨unsettled, decide_eq_true own⟩
        exact .inl (.inl (List.mem_append_left _ (List.mem_map.mpr ⟨shipment, back, same⟩)))
    · left
      have rest : shipment ∈ queues.unsettled.filter fun shipment => shipment.tag ≠ tag :=
        List.mem_filter.mpr ⟨unsettled, decide_eq_true own⟩
      cases decision <;> exact .inr ⟨shipment, rest, same⟩

/-- What a worker may receive has been delivered. -/
theorem exists_of_hasDelivered {kind : EventKind} {tag : Nat} {body : Json.Bytes}
    (delivered : queues.hasDelivered kind tag body = true) :
    ∃ shipment ∈ queues.delivered, shipment.tag = tag ∧ shipment.message.kind = kind ∧
      shipment.message.body = body := by
  obtain ⟨shipment, among, found⟩ := List.any_eq_true.mp delivered
  exact ⟨shipment, among, of_decide_eq_true found⟩

end EventLedger.Broker.Queues

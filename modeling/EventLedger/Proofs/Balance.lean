import EventLedger.Proofs.Standing
import Mathlib.Algebra.Ring.Nat

/-!
# Balanced tables

The totals of a user's day are the sums over the rows of that day, and there are totals exactly if
there are rows. Storing an event keeps this, since a row and the addition of its tokens are made
together and a sum that cannot be written is not written at all.
-/
namespace EventLedger

/-- The sum of two counts is their sum. -/
theorem TokenCount.value_of_plus? {first second sum : TokenCount}
    (added : first.plus? second = some sum) : sum.value = first.value + second.value := by
  unfold TokenCount.plus? at added
  split at added
  · cases added
    rfl
  · cases added

/-- Counts of the same number are the same. -/
theorem TokenCount.eq_of_value {first second : TokenCount} (same : first.value = second.value) :
    first = second := by
  cases first
  cases second
  cases same
  rfl

namespace Database

/-- Totals are the sums over some events, and there are none exactly if there are no events. -/
def Sums (events : List UsageEvent) : Option DayTotals → Prop
  | none => events = []
  | some totals => events ≠ [] ∧
    totals.inputTokens.value = (events.map (·.inputTokens.value)).sum ∧
    totals.outputTokens.value = (events.map (·.outputTokens.value)).sum

/-- Totals with one more event are the sums over one more event. -/
theorem Sums.plus? {events : List UsageEvent} {totals? : Option DayTotals} {event : UsageEvent}
    {totals : DayTotals} (sums : Sums events totals?)
    (added : DayTotals.plus? totals? event = some totals) :
    Sums (events ++ [event]) (some totals) := by
  refine ⟨by simp, ?_⟩
  cases totals? with
  | none =>
    cases added
    rw [show events = [] from sums]
    simp
  | some earlier =>
    obtain ⟨_, inputs, outputs⟩ := sums
    simp only [DayTotals.plus?] at added
    split at added
    · rename_i inputTokens outputTokens inputAdded outputAdded
      cases added
      have inputValue := TokenCount.value_of_plus? inputAdded
      have outputValue := TokenCount.value_of_plus? outputAdded
      simp [inputValue, outputValue, inputs, outputs]
    · cases added

/-- Totals depend on the events and not on their order. -/
theorem Sums.eq_of_perm {events others : List UsageEvent} {totals? others? : Option DayTotals}
    (sums : Sums events totals?) (otherSums : Sums others others?) (same : events.Perm others) :
    totals? = others? := by
  cases totals? with
  | none =>
    have none : others = [] := by
      rw [show events = [] from sums] at same
      exact same.nil_eq.symm
    cases others? with
    | none => rfl
    | some _ => exact absurd none otherSums.1
  | some totals =>
    cases others? with
    | none =>
      rw [show others = [] from otherSums] at same
      exact absurd same.eq_nil sums.1
    | some otherTotals =>
      obtain ⟨_, inputs, outputs⟩ := sums
      obtain ⟨_, otherInputs, otherOutputs⟩ := otherSums
      have sameInputs : totals.inputTokens = otherTotals.inputTokens := by
        apply TokenCount.eq_of_value
        rw [inputs, otherInputs]
        exact (same.map _).sum_nat
      have sameOutputs : totals.outputTokens = otherTotals.outputTokens := by
        apply TokenCount.eq_of_value
        rw [outputs, otherOutputs]
        exact (same.map _).sum_nat
      obtain ⟨inputTokens, outputTokens⟩ := totals
      obtain ⟨otherInputTokens, otherOutputTokens⟩ := otherTotals
      obtain rfl : inputTokens = otherInputTokens := sameInputs
      obtain rfl : outputTokens = otherOutputTokens := sameOutputs
      rfl

namespace Tables

/-- The events of a user's day, in the order in which their rows came. -/
def eventsOn (tables : Tables) (user : Uuid) (day : Day) : List UsageEvent :=
  (tables.usage.filter fun row => row.event.userId = user ∧ row.day = day).map (·.event)

/-- The rows of usage events that a call has written. -/
def rowsOf (tables : Tables) (place : Nat) : List UsageRow :=
  tables.usage.filter fun row => row.call = place

/-- The events that a call has written. -/
def writes (tables : Tables) (place : Nat) : List Event :=
  (tables.rowsOf place).map (fun row => .usage row.event) ++
    (tables.audit.filter fun row => row.call = place).map fun row => .audit row.event

/-- The totals of all days are the sums over the rows. -/
def Balanced (tables : Tables) : Prop :=
  ∀ user day, Sums (tables.eventsOn user day) (tables.daily user day)

/-- Tables that hold nothing are balanced. -/
theorem balanced_empty : empty.Balanced := fun _ _ => rfl

/-- A usage event is stored as a row and an addition. -/
theorem eq_of_storing_usage {tables later : Tables} {place : Nat} {day : Day} {event : UsageEvent}
    (stored : tables.changeAll? (storing place day (.usage event)) = some later) :
    ∃ totals, DayTotals.plus? (tables.daily event.userId day) event = some totals ∧
      later = { tables.withTotals event.userId day totals with
        usage := tables.usage ++ [{ call := place, event, day }] } := by
  simp only [storing, changeAll?, change?] at stored
  cases added : DayTotals.plus? (tables.daily event.userId day) event with
  | none => simp [added] at stored
  | some totals =>
    simp only [added, Option.some.injEq] at stored
    exact ⟨totals, rfl, stored.symm⟩

/-- An audit event is stored as a row. -/
theorem eq_of_storing_audit {tables later : Tables} {place : Nat} {day : Day} {event : AuditEvent}
    (stored : tables.changeAll? (storing place day (.audit event)) = some later) :
    later = { tables with audit := tables.audit ++ [{ call := place, event }] } := by
  simp only [storing, changeAll?, change?, Option.some.injEq] at stored
  exact stored.symm

variable {tables later : Tables} {place : Nat} {day : Day} {event : Event}

/-- A call that stores its event has written it. -/
theorem writes_of_storing (stored : tables.changeAll? (storing place day event) = some later)
    (nothing : tables.writes place = []) : later.writes place = [event] := by
  obtain ⟨noUsage, noAudit⟩ := List.append_eq_nil_iff.mp nothing
  unfold rowsOf at noUsage
  cases event with
  | usage event =>
    obtain ⟨totals, _, rfl⟩ := eq_of_storing_usage stored
    simp [writes, rowsOf, withTotals, noUsage, noAudit, List.filter_append]
  | audit event =>
    obtain rfl := eq_of_storing_audit stored
    simp [writes, rowsOf, noUsage, noAudit, List.filter_append]

/-- A call that stores its event leaves what the others have written. -/
theorem writes_of_storing_of_ne
    (stored : tables.changeAll? (storing place day event) = some later) {other : Nat}
    (different : other ≠ place) : later.writes other = tables.writes other := by
  have foreign : ¬place = other := Ne.symm different
  cases event with
  | usage event =>
    obtain ⟨totals, _, rfl⟩ := eq_of_storing_usage stored
    simp [writes, rowsOf, withTotals, foreign, List.filter_append]
  | audit event =>
    obtain rfl := eq_of_storing_audit stored
    simp [writes, rowsOf, foreign, List.filter_append]

/-- Storing an event keeps the tables balanced. -/
theorem Balanced.storing (balanced : tables.Balanced)
    (stored : tables.changeAll? (storing place day event) = some later) : later.Balanced := by
  intro user today
  have before := balanced user today
  cases event with
  | usage event =>
    obtain ⟨totals, added, rfl⟩ := eq_of_storing_usage stored
    by_cases own : user = event.userId ∧ today = day
    · obtain ⟨rfl, rfl⟩ := own
      have after := before.plus? added
      simpa [eventsOn, withTotals, List.filter_append] using after
    · have foreign : ¬(event.userId = user ∧ day = today) := by
        rintro ⟨rfl, rfl⟩
        exact own ⟨rfl, rfl⟩
      simpa [eventsOn, withTotals, List.filter_append, own, foreign] using before
  | audit event =>
    obtain rfl := eq_of_storing_audit stored
    exact before

/-- There are totals exactly if there are rows. -/
theorem Balanced.isSome_iff (balanced : tables.Balanced) (user : Uuid) (day : Day) :
    (tables.daily user day).isSome = true ↔
      ∃ row ∈ tables.usage, row.event.userId = user ∧ row.day = day := by
  have sums := balanced user day
  have none_iff : tables.eventsOn user day = [] ↔
      ¬∃ row ∈ tables.usage, row.event.userId = user ∧ row.day = day := by
    simp [eventsOn, List.filter_eq_nil_iff]
  cases found : tables.daily user day with
  | none =>
    rw [found] at sums
    simpa using none_iff.mp sums
  | some totals =>
    rw [found] at sums
    have rows := mt none_iff.mpr sums.1
    simpa using rows

/-- A row has been written by its call. -/
theorem mem_writes_of_row {row : UsageRow} (among : row ∈ tables.usage) :
    .usage row.event ∈ tables.writes row.call := by
  refine List.mem_append_left _ (List.mem_map.mpr ⟨row, ?_, rfl⟩)
  exact List.mem_filter.mpr ⟨among, by simp⟩

/-- A call that has written nothing has no rows. -/
theorem rowsOf_of_writes_nil (nothing : tables.writes place = []) : tables.rowsOf place = [] :=
  List.map_eq_nil_iff.mp (List.append_eq_nil_iff.mp nothing).1

/-- A call that has written a usage event has one row, which is that event's. -/
theorem rowsOf_of_writes_usage {event : UsageEvent}
    (written : tables.writes place = [.usage event]) :
    ∃ day, tables.rowsOf place = [{ call := place, event, day }] := by
  unfold writes at written
  cases rows : tables.rowsOf place with
  | nil =>
    rw [rows, List.map_nil, List.nil_append] at written
    obtain ⟨_, _, _, absurd, _⟩ := List.map_eq_cons_iff.mp written
    cases absurd
  | cons row others =>
    rw [rows, List.map_cons, List.cons_append, List.cons.injEq] at written
    obtain ⟨same, nothing⟩ := written
    have alone := List.map_eq_nil_iff.mp (List.append_eq_nil_iff.mp nothing).1
    have own : row ∈ tables.rowsOf place := by simp [rows]
    have place_eq : row.call = place := by simpa [rowsOf] using (List.mem_filter.mp own).2
    obtain ⟨_, rowEvent, day⟩ := row
    cases same
    cases place_eq
    exact ⟨day, by rw [alone]⟩

/-- A call that has written an audit event has no rows of usage events. -/
theorem rowsOf_of_writes_audit {event : AuditEvent}
    (written : tables.writes place = [.audit event]) : tables.rowsOf place = [] := by
  unfold writes at written
  cases rows : tables.rowsOf place with
  | nil => rfl
  | cons row others =>
    rw [rows, List.map_cons, List.cons_append, List.cons.injEq] at written
    cases written.1

/-- The totals of balanced tables depend on the rows and not on their order. -/
theorem Balanced.daily_eq (balanced : tables.Balanced) (others : later.Balanced)
    (same : (tables.usage.map fun row => (row.event, row.day)).Perm
      (later.usage.map fun row => (row.event, row.day))) : tables.daily = later.daily := by
  funext user day
  refine (balanced user day).eq_of_perm (others user day) ?_
  have events : ∀ of : Tables, of.eventsOn user day =
      ((of.usage.map fun row => (row.event, row.day)).filter
        fun pair => pair.1.userId = user ∧ pair.2 = day).map Prod.fst := by
    intro of
    simp [eventsOn, List.filter_map, Function.comp_def]
  rw [events, events]
  exact (same.filter _).map _

end Tables

end Database

end EventLedger

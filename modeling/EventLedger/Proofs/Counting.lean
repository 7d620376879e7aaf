import EventLedger.Metrics

/-!
# What is counted

The metrics of a run are told by its journal: the value of a counter is how often something happens
that raises it, and the durations of a queue are those of its measurements, in order.
-/
namespace EventLedger

/-- The counter that is raised by what happens, if one is. -/
def Occurrence.counter? : Occurrence → Option Counter
  | .failureCounted => some .restarts
  | .measured queue decision _ => some (.messages queue decision)
  | _ => none

/-- A message that has been dealt with, as it is counted. -/
structure Measurement where
  /-- The name of its queue. -/
  queue : String
  /-- What the queue was told. -/
  decision : Decision
  /-- The milliseconds that it took without its settlement. -/
  millis : Nat

/-- The measurement that happens, if one does. -/
def Occurrence.measurement? : Occurrence → Option Measurement
  | .measured queue decision millis => some { queue, decision, millis }
  | _ => none

/-- The messages that were measured, in order. -/
def Journal.measurements (journal : Journal) : List Measurement :=
  journal.filterMap fun entry => entry.what.measurement?

namespace Metrics

/-! ## Values under keys -/

section Keys

variable {κ α : Type} [DecidableEq κ]

/-- Under the key itself stands the changed value, or the first one. -/
theorem lookup_upsert_self (key : κ) (first : α) (change : α → α) (values : List (κ × α)) :
    (upsert key first change values).lookup key =
      some ((values.lookup key).elim first change) := by
  induction values with
  | nil => simp [upsert]
  | cons entry rest ih =>
    obtain ⟨other, value⟩ := entry
    rw [upsert]
    by_cases same : other = key
    · subst same
      simp
    · rw [if_neg same]
      have unlike : (key == other) = false := beq_false_of_ne (Ne.symm same)
      rw [List.lookup_cons, List.lookup_cons, unlike]
      exact ih

/-- Under another key nothing changes. -/
theorem lookup_upsert_of_ne {key other : κ} (unlike : other ≠ key) (first : α) (change : α → α)
    (values : List (κ × α)) :
    (upsert key first change values).lookup other = values.lookup other := by
  induction values with
  | nil => simp [upsert, List.lookup_cons, beq_false_of_ne unlike]
  | cons entry rest ih =>
    obtain ⟨held, value⟩ := entry
    rw [upsert]
    by_cases same : held = key
    · subst same
      simp [List.lookup_cons, beq_false_of_ne unlike]
    · rw [if_neg same, List.lookup_cons, List.lookup_cons, ih]

end Keys

/-! ## One occurrence -/

/-- A counter is raised by one, or another one is. -/
theorem count_raise (metrics : Metrics) (raised counter : Counter) :
    (metrics.raise raised).count counter =
      metrics.count counter + if raised = counter then 1 else 0 := by
  unfold count raise
  by_cases same : raised = counter
  · subst same
    rw [lookup_upsert_self, if_pos rfl]
    cases metrics.counters.lookup raised <;> rfl
  · rw [lookup_upsert_of_ne (Ne.symm same), if_neg same, Nat.add_zero]

/-- An occurrence raises its own counter. -/
theorem count_add (metrics : Metrics) (what : Occurrence) (counter : Counter) :
    (metrics.add what).count counter =
      metrics.count counter + if what.counter? = some counter then 1 else 0 := by
  cases what with
  | failureCounted => simp [add, addRestart, count_raise, Occurrence.counter?]
  | measured queue decision millis =>
    simp only [add, addMessage, Occurrence.counter?, Option.some.injEq]
    exact count_raise metrics _ counter
  | _ => simp [add, Occurrence.counter?]

/-- A measurement adds its duration to those of its queue. -/
theorem durationsOf_add (metrics : Metrics) (what : Occurrence) (queue : String) :
    (metrics.add what).durationsOf queue = metrics.durationsOf queue ++
      (what.measurement?.toList.filter (·.queue = queue)).map Measurement.millis := by
  cases what with
  | measured other decision millis =>
    unfold add addMessage durationsOf raise Occurrence.measurement?
    by_cases same : other = queue
    · subst same
      rw [lookup_upsert_self]
      cases metrics.durations.lookup other <;> simp
    · rw [lookup_upsert_of_ne (Ne.symm same)]
      simp [same]
  | failureCounted => simp [add, addRestart, durationsOf, raise, Occurrence.measurement?]
  | _ => simp [add, Occurrence.measurement?]

/-! ## Journals -/

/-- A counter rises as often as something happens that raises it. -/
theorem count_foldl (metrics : Metrics) (journal : Journal) (counter : Counter) :
    (journal.foldl (fun metrics entry => metrics.add entry.what) metrics).count counter =
      metrics.count counter +
        journal.countP fun entry => entry.what.counter? = some counter := by
  induction journal generalizing metrics with
  | nil => rfl
  | cons entry rest ih =>
    rw [List.foldl_cons, ih, count_add, List.countP_cons]
    simp only [decide_eq_true_eq]
    omega

/-- A counter counts the entries of a journal that raise it. -/
theorem count_ofJournal (journal : Journal) (counter : Counter) :
    (ofJournal journal).count counter =
      journal.countP fun entry => entry.what.counter? = some counter := by
  rw [ofJournal, count_foldl]
  simp [empty, count]

/-- The messages of a queue about which it was told the same are counted as they were measured. -/
theorem count_messages_ofJournal (journal : Journal) (queue : String) (decision : Decision) :
    (ofJournal journal).count (.messages queue decision) =
      journal.measurements.countP fun measurement =>
        measurement.queue = queue ∧ measurement.decision = decision := by
  rw [count_ofJournal, Journal.measurements, List.countP_filterMap]
  congr 1
  funext entry
  cases entry.what <;> simp [Occurrence.counter?, Occurrence.measurement?]

/-- The durations of a queue are followed by those that are measured. -/
theorem durationsOf_foldl (metrics : Metrics) (journal : Journal) (queue : String) :
    (journal.foldl (fun metrics entry => metrics.add entry.what) metrics).durationsOf queue =
      metrics.durationsOf queue ++
        (journal.measurements.filter (·.queue = queue)).map Measurement.millis := by
  induction journal generalizing metrics with
  | nil => simp [Journal.measurements]
  | cons entry rest ih =>
    rw [List.foldl_cons, ih, durationsOf_add, Journal.measurements, Journal.measurements,
      List.filterMap_cons, List.append_assoc]
    cases entry.what.measurement? with
    | none => rfl
    | some measurement =>
      rw [← List.map_append, ← List.filter_append]
      rfl

/-- The durations of a queue are those of its measurements. -/
theorem durationsOf_ofJournal (journal : Journal) (queue : String) :
    (ofJournal journal).durationsOf queue =
      (journal.measurements.filter (·.queue = queue)).map Measurement.millis := by
  rw [ofJournal, durationsOf_foldl]
  rfl

end Metrics

end EventLedger

import EventLedger.Consumer.Feed
import EventLedger.Proofs.Simulation

/-!
# Runs that keep time

A journal says when the wish to go on changes. A run keeps time if its journal says of every such
change that happens in it, if the clock does not go back, and if a planned change happens at its
time. Every part of a worker keeps time, and so does whatever is put together from such parts.
-/
namespace EventLedger

/-! ## Changes of the wish to go on -/

namespace Journal

/-- The changes of the wish to go on, with their times. -/
def changes (journal : Journal) : List (Nat × SignalChange) :=
  journal.filterMap fun entry =>
    match entry.what with
    | .signalled change _ => some (entry.time, change)
    | _ => none

/-- Without any entry, nothing changes the wish to go on. -/
@[simp]
theorem changes_nil : changes [] = [] := rfl

/-- The changes of one journal come before those of a later one. -/
@[simp]
theorem changes_append (first second : Journal) :
    changes (first ++ second) = first.changes ++ second.changes :=
  List.filterMap_append

end Journal

namespace Signal

/-- The wish to go on after what a journal says about it. -/
def afterAll (signal : Signal) (journal : Journal) : Signal :=
  journal.changes.foldl (fun signal change => signal.after change.2) signal

/-- Without any change, the wish stays as it is. -/
@[simp]
theorem afterAll_nil (signal : Signal) : signal.afterAll [] = signal := rfl

/-- The changes of one journal after another act one after another. -/
@[simp]
theorem afterAll_append (signal : Signal) (first second : Journal) :
    signal.afterAll (first ++ second) = (signal.afterAll first).afterAll second := by
  simp [afterAll, List.foldl_append]

/-- A wish that has been changed once is not changed again. -/
theorem after_of_ne_running {signal : Signal} (halted : signal ≠ .running)
    (change : SignalChange) : signal.after change = signal := by
  cases signal <;> cases change <;> first | rfl | exact absurd rfl halted

/-- So all later changes are in vain. -/
theorem foldl_after_of_ne_running {signal : Signal} (halted : signal ≠ .running)
    (changes : List (Nat × SignalChange)) :
    changes.foldl (fun signal change => signal.after change.2) signal = signal := by
  induction changes with
  | nil => rfl
  | cons change rest ih => rw [List.foldl_cons, after_of_ne_running halted, ih]

/-- The first change is the last one. -/
theorem afterAll_of_ne_running {signal : Signal} (halted : signal ≠ .running)
    (journal : Journal) : signal.afterAll journal = signal :=
  foldl_after_of_ne_running halted _

/-- A worker that shall not go on is never brought back. -/
theorem afterAll_append_ne_running {signal : Signal} {journal : Journal}
    (halted : signal.afterAll journal ≠ .running) (more : Journal) :
    signal.afterAll (journal ++ more) ≠ .running := by
  rwa [afterAll_append, afterAll_of_ne_running halted]

/-- Who has been asked to stop stays so. -/
@[simp]
theorem afterAll_stopped (journal : Journal) : Signal.stopped.afterAll journal = .stopped :=
  afterAll_of_ne_running (by decide) journal

/-- A worker shall go on as long as no change has been noted. -/
theorem afterAll_running (journal : Journal) :
    Signal.running.afterAll journal = .running ↔ journal.changes = [] := by
  unfold afterAll
  cases changes : journal.changes with
  | nil => simp
  | cons change rest =>
    have halted : Signal.running.after change.2 ≠ .running := by cases change.2 <;> decide
    simp [List.foldl_cons, foldl_after_of_ne_running halted, halted]

/-- A worker that is left alone has been left alone at some time. -/
theorem exists_abandon_of_afterAll {journal : Journal}
    (abandoned : Signal.running.afterAll journal = .abandoned) :
    ∃ time, (time, SignalChange.abandon) ∈ journal.changes := by
  unfold afterAll at abandoned
  cases changes : journal.changes with
  | nil => simp [changes] at abandoned
  | cons first rest =>
    obtain ⟨time, change⟩ := first
    cases change with
    | abandon => exact ⟨time, List.mem_cons_self⟩
    | stop =>
      have stopped : Signal.stopped = .abandoned := by
        rwa [changes, List.foldl_cons, show Signal.running.after .stop = .stopped from rfl,
          foldl_after_of_ne_running (by decide)] at abandoned
      cases stopped

end Signal

/-- Once a stop has been asked for, no more than `limit` things of a sort happen. -/
def AtMostAfterStop (keep : Occurrence → Bool) (limit : Nat) (signal : Signal)
    (journal : Journal) : Prop :=
  ∀ before after : Journal, journal = before ++ after → signal.afterAll before = .stopped →
    (after.only keep).length ≤ limit

namespace AtMostAfterStop

variable {keep : Occurrence → Bool} {limit : Nat} {signal : Signal} {first second : Journal}

/-- A journal that holds no more than the limit of a sort keeps to it, whatever the signal. -/
theorem of_length_le (few : (first.only keep).length ≤ limit) :
    AtMostAfterStop keep limit signal first := by
  rintro before after rfl _
  rw [Journal.only_append, List.length_append] at few
  omega

/-- What happens after a stop in the first of two journals leaves nothing for the second one. -/
theorem append (one : AtMostAfterStop keep limit signal first)
    (two : AtMostAfterStop keep limit (signal.afterAll first) second)
    (none : signal.afterAll first = .stopped → second.only keep = []) :
    AtMostAfterStop keep limit signal (first ++ second) := by
  intro before after split stopped
  obtain ⟨middle, rfl, rfl⟩ | ⟨middle, rfl, rfl⟩ := List.append_eq_append_iff.mp split
  · rw [Signal.afterAll_append] at stopped
    exact two middle after rfl stopped
  · have ended : signal.afterAll (before ++ middle) = .stopped := by
      rw [Signal.afterAll_append, stopped, Signal.afterAll_stopped]
    rw [Journal.only_append, none ended, List.append_nil]
    exact one before middle rfl stopped

/-- What comes first in a journal comes before a stop. -/
theorem of_cons {entry : Entry} {rest : Journal} (goesOn : signal ≠ .stopped)
    (few : (rest.only keep).length ≤ limit) :
    AtMostAfterStop keep limit signal (entry :: rest) := by
  intro before after split stopped
  cases before with
  | nil => exact absurd stopped goesOn
  | cons first more =>
    have whole : rest = more ++ after := (List.cons.inj split).2
    rw [whole, Journal.only_append, List.length_append] at few
    omega

end AtMostAfterStop

/-! ## Keeping time -/

/-- What becomes of a planned change: it lies ahead, or it has happened at its time, or at once if
it was due before. -/
inductive PlanKept (before : World) (journal : Journal) (after : World) : Prop where
  /-- The change lies ahead, as far as any time has passed. -/
  | ahead (same : after.planned = before.planned)
      (early : ∀ time change, before.planned = some (time, change) →
        after.now = before.now ∨ after.now < time)
  /-- The change has happened. -/
  | done {time : Nat} {change : SignalChange} (was : before.planned = some (time, change))
      (gone : after.planned = none) (due : time ≤ after.now)
      (noted : (max time before.now, change) ∈ journal.changes)

/-- A run from a world keeps time. -/
structure KeepsTime {α : Type} (world : World) (run : Run α) : Prop where
  /-- Every change of the wish to go on is noted. -/
  signal : run.world.signal = world.signal.afterAll run.journal
  /-- The clock does not go back. -/
  forward : world.now ≤ run.world.now
  /-- What is noted happens in the time of the run. -/
  within : ∀ entry ∈ run.journal, world.now ≤ entry.time ∧ entry.time ≤ run.world.now
  /-- A planned change happens at its time. -/
  planned : PlanKept world run.journal run.world
  /-- Nobody leaves the worker alone without a plan. -/
  abandons : ∀ time, (time, SignalChange.abandon) ∈ run.journal.changes →
    ∃ planned, world.planned = some (planned, .abandon)

namespace PlanKept

variable {first second third : World} {journal later : Journal}

/-- A world keeps its own plan. -/
theorem refl (world : World) (journal : Journal) : PlanKept world journal world :=
  .ahead rfl fun _ _ _ => .inl rfl

/-- A plan that is kept in one part and in the next is kept in both. -/
theorem trans (one : PlanKept first journal second) (two : PlanKept second later third)
    (forward : first.now ≤ second.now) (goesOn : second.now ≤ third.now) :
    PlanKept first (journal ++ later) third := by
  cases one with
  | ahead same early =>
    cases two with
    | ahead again still =>
      refine .ahead (again.trans same) fun time change plan => ?_
      have ahead := early time change plan
      have farAhead := still time change (same.trans plan)
      omega
    | done was gone due noted =>
      rename_i time change
      have plan := same.symm.trans was
      have ahead := early time change plan
      have sameTime : max time second.now = max time first.now := by omega
      refine .done plan gone due ?_
      rw [← sameTime, Journal.changes_append]
      exact List.mem_append_right _ noted
  | done was gone due noted =>
    have absent : third.planned = none := by
      cases two with
      | ahead again _ => exact again.trans gone
      | done other _ _ _ => rw [gone] at other; cases other
    refine .done was absent (Nat.le_trans due goesOn) ?_
    rw [Journal.changes_append]
    exact List.mem_append_left _ noted

end PlanKept

namespace KeepsTime

variable {α β : Type} {world : World}

/-- Nothing has happened. -/
theorem nothing (value : α) : KeepsTime world ⟨[], world, value⟩ where
  signal := rfl
  forward := Nat.le_refl _
  within := by simp
  planned := .refl world []
  abandons := by simp

/-- The value of a run does not matter. -/
theorem replace {run : Run α} (keeps : KeepsTime world run) (value : β) :
    KeepsTime world (⟨run.journal, run.world, value⟩ : Run β) where
  signal := keeps.signal
  forward := keeps.forward
  within := keeps.within
  planned := keeps.planned
  abandons := keeps.abandons

/-- One run after another. -/
theorem append {first : Run α} {second : Run β} (before : KeepsTime world first)
    (after : KeepsTime first.world second) :
    KeepsTime world (⟨first.journal ++ second.journal, second.world, second.value⟩ : Run β) where
  signal := by rw [after.signal, before.signal, Signal.afterAll_append]
  forward := Nat.le_trans before.forward after.forward
  within := by
    intro entry among
    obtain early | late := List.mem_append.mp among
    · have between := before.within entry early
      exact ⟨between.1, Nat.le_trans between.2 after.forward⟩
    · have between := after.within entry late
      exact ⟨Nat.le_trans before.forward between.1, between.2⟩
  planned := before.planned.trans after.planned before.forward after.forward
  abandons := by
    intro time among
    rw [Journal.changes_append, List.mem_append] at among
    obtain early | late := among
    · exact before.abandons time early
    · obtain ⟨planned, plan⟩ := after.abandons time late
      refine ⟨planned, ?_⟩
      cases before.planned with
      | ahead same _ => rw [← same, plan]
      | done _ gone _ _ => rw [gone] at plan; cases plan

end KeepsTime

/-- A run keeps time wherever it begins. -/
def Sim.Orderly {α : Type} (run : Sim α) : Prop := ∀ world, KeepsTime world (run world)

namespace Sim.Orderly

variable {α β : Type}

/-- A value comes of nothing, which takes no time. -/
theorem pure (value : α) : Orderly (Pure.pure value : Sim α) := fun _ => .nothing value

/-- A look at the world takes no time. -/
theorem world : Orderly Sim.world := fun world => .nothing world

/-- Orderly runs one after another are an orderly run. -/
theorem bind {first : Sim α} {next : α → Sim β} (before : Orderly first)
    (after : ∀ value, Orderly (next value)) : Orderly (first >>= next) :=
  fun world => (before world).append (after _ _)

/-- A run that begins with a look at the world. -/
theorem look {next : World → Sim α} (after : ∀ world, Orderly (next world)) :
    Orderly (Sim.world >>= next) := bind world after

/-- A choice between orderly runs is an orderly run. -/
theorem ite {condition : Prop} [Decidable condition] {yes no : Sim α} (one : Orderly yes)
    (other : Orderly no) : Orderly (if condition then yes else no) := by
  split <;> assumption

/-! ## What a run is made of -/

/-- Asking for a stop is orderly. -/
theorem askToStop : Orderly (Sim.signal .stop .surroundings) := by
  intro world
  constructor
  · rfl
  · exact Nat.le_refl _
  · intro entry among
    obtain rfl := List.mem_singleton.mp among
    exact ⟨Nat.le_refl _, Nat.le_refl _⟩
  · exact .ahead rfl fun _ _ _ => .inl rfl
  · simp [Sim.signal, Journal.changes]

/-- So is asking for one only if it is wanted. -/
theorem stopIf (wanted : Bool) : Orderly (Sim.stopIf wanted) := ite askToStop (pure ())

/-- Something that happens, and is no change of the wish to go on, keeps time. -/
theorem happen {what : Occurrence} (other : ∀ change source, what ≠ .signalled change source) :
    Orderly (Sim.happen what) := by
  intro world
  have plain : KeepsTime world (⟨[⟨world.now, what⟩], world, ()⟩ : Run Unit) := by
    have unchanged : Journal.changes [⟨world.now, what⟩] = [] := by
      cases what <;> first | rfl | exact absurd rfl (other _ _)
    constructor
    · simp [Signal.afterAll, unchanged]
    · exact Nat.le_refl _
    · simp
    · exact .refl world _
    · simp [unchanged]
  unfold Sim.happen
  split
  · split
    · exact plain.append (askToStop world)
    · exact plain
  · exact plain

/-- Logging is orderly. -/
theorem log (level : Log.Level) (target message : String) (fields : Log.Fields) :
    Orderly (Sim.log level target message fields) := happen nofun

/-- So is anything that happens at once, the changes of the wish apart. -/
theorem happenAll {whats : List Occurrence}
    (others : ∀ what ∈ whats, ∀ change source, what ≠ .signalled change source) :
    Orderly (Sim.happenAll whats) := by
  induction whats with
  | nil => exact pure ()
  | cons what rest ih =>
    rw [List.forall_mem_cons] at others
    exact bind (happen others.1) fun _ => ih others.2

/-- So is what a store does. -/
theorem perform (deeds : List Consumer.StoreDeed) : Orderly (Consumer.perform deeds) := by
  apply happenAll
  intro what among
  obtain ⟨deed, _, rfl⟩ := List.mem_map.mp among
  rcases deed with (_ | _) | _ | _ <;> exact nofun

/-- A wait during which the planned change is due ends with the change made. -/
theorem wait (millis : Nat) : Orderly (Sim.wait millis) := by
  intro world
  unfold Sim.wait
  cases planned : world.planned with
  | none =>
    constructor
    · rfl
    · exact Nat.le_add_right _ _
    · simp
    · exact .ahead planned.symm (by simp [planned])
    · simp
  | some plan =>
    obtain ⟨time, change⟩ := plan
    simp only
    split
    · rename_i due
      constructor
      · rfl
      · exact Nat.le_add_right _ _
      · intro entry among
        obtain rfl := List.mem_singleton.mp among
        exact ⟨Nat.le_max_right _ _, Nat.max_le.mpr ⟨due, Nat.le_add_right _ _⟩⟩
      · exact .done planned rfl due (by simp [Journal.changes])
      · intro other among
        have same : (other, SignalChange.abandon) = (max time world.now, change) :=
          List.mem_singleton.mp among
        cases same
        exact ⟨time, planned⟩
    · rename_i early
      constructor
      · rfl
      · exact Nat.le_add_right _ _
      · simp
      · refine .ahead planned.symm fun other another plan => .inr ?_
        rw [planned] at plan
        cases plan
        exact Nat.lt_of_not_le early
      · simp

/-- A wait that the signal may end is orderly. -/
theorem waitUnlessSignalled (millis : Nat) (tie : Sim.Tie) :
    Orderly (Sim.waitUnlessSignalled millis tie) := by
  refine look fun world => ?_
  split
  · exact bind (wait _) fun _ => pure _
  · exact ite (bind (wait _) fun _ => pure _) (bind (wait _) fun _ => pure _)

/-- So is a wait for the signal. -/
theorem waitForSignal : Orderly Sim.waitForSignal := by
  refine look fun world => ?_
  split
  · exact pure _
  · exact wait _

/-! ## What a loop does -/

/-- A call of the store is orderly, however it is answered. -/
theorem callStore (timeLimit : Nat) (event : Event) (response : Consumer.StoreResponse) :
    Orderly (Consumer.callStore timeLimit event response) := by
  refine bind (happen nofun) fun _ => bind (perform _) fun _ => bind (stopIf _) fun _ => ?_
  split
  · exact bind (wait _) fun _ => bind (perform _) fun _ => pure _
  · exact ite
      (bind (wait _) fun _ => bind (happen nofun) fun _ => bind (perform _) fun _ => pure _)
      (bind (wait _) fun _ => bind (perform _) fun _ => pure _)

/-- So is the processing of a body. -/
theorem process (consumer : Consumer) (kind : EventKind) (body : Json.Bytes)
    (store : Event → Consumer.StoreResponse) :
    Orderly (Consumer.process consumer kind body store) := by
  unfold Consumer.process
  split
  · exact pure _
  · exact callStore _ _ _

/-- So is a settlement. -/
theorem settle (consumer : Consumer) (delivery : Consumer.Delivery) (outcome : Outcome)
    (settlement : Consumer.Settlement) :
    Orderly (Consumer.settle consumer delivery outcome settlement) := by
  refine bind (happen nofun) fun _ => bind (stopIf _) fun _ => bind (wait _) fun _ => ?_
  split
  · exact pure _
  · exact happen nofun

/-- So is all that is done with a delivery. -/
theorem dispatch (consumer : Consumer) (delivery : Consumer.Delivery)
    (store : Event → Consumer.StoreResponse) (settlement : Consumer.Settlement) :
    Orderly (Consumer.dispatch consumer delivery store settlement) :=
  bind (happen nofun) fun _ => look fun _ =>
    bind (process consumer delivery.kind delivery.body store) fun outcome =>
      look fun _ => bind (happen nofun) fun _ =>
        bind (settle consumer delivery outcome settlement) fun _ =>
          bind (happen nofun) fun _ => pure _

/-- Dealing with an item of a queue keeps time. -/
theorem take (consumer : Consumer) (kind : EventKind) (item : Consumer.Item) :
    Orderly (Consumer.take consumer (item.arrival kind)) := by
  cases item with
  | message tag body store settlement =>
    refine bind (happen nofun) fun _ => bind (dispatch _ _ _ _) fun error => ?_
    split <;> exact pure _
  | failure reason => exact bind (happen nofun) fun _ => pure _
  | closed => exact bind (happen nofun) fun _ => pure _

/-- Stopping is orderly. -/
theorem decline : Orderly Consumer.decline := bind (log _ _ _ _) fun _ => pure _

/-- So is a turn of the loop in which an item is taken. -/
theorem turn_some (consumer : Consumer) (delay : Nat) (tie : Sim.Tie) (kind : EventKind)
    (item : Consumer.Item) :
    Orderly (Consumer.turn consumer (some ⟨delay, tie, item.arrival kind⟩)) :=
  look fun _ => ite decline <|
    bind (waitUnlessSignalled _ _) fun _ => ite decline (take consumer kind item)

/-- So is one in which nothing arrives any more. -/
theorem turn_none (consumer : Consumer) : Orderly (Consumer.turn consumer none) :=
  look fun _ => ite decline <|
    look fun _ => ite (bind waitForSignal fun _ => decline) (pure _)

/-- A loop on a feed keeps time. -/
theorem run (feed : Consumer.Feed) (consumer : Consumer) (turns : Nat)
    (taken : List EventKind) : Orderly (feed.run consumer turns taken) := by
  induction turns generalizing taken with
  | zero => exact pure _
  | succ turns ih =>
    refine look fun world => ?_
    cases next : feed.next? taken world.now with
    | none =>
      simp only [next]
      refine bind (turn_none consumer) fun turned => ?_
      cases turned <;> exact pure _
    | some choice =>
      obtain ⟨kind, offer⟩ := choice
      simp only [next]
      refine bind (turn_some consumer _ _ kind offer.item) fun turned => ?_
      cases turned with
      | goesOn => exact ih _
      | ended _ | declined | stuck => exact pure _

end Sim.Orderly

end EventLedger

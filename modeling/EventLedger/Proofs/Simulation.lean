import EventLedger.Consumer.Delivery

/-!
# Laws of runs

How the journal, the clock and the value of a run come from those of its parts. A sort of
occurrence that leaves out what is said about the signal and by the store is not touched by
waiting, logging and asking for a stop.
-/
namespace EventLedger

namespace Journal

/-- What happened of a sort in one journal after another. -/
@[simp]
theorem only_append (keep : Occurrence → Bool) (first second : Journal) :
    only keep (first ++ second) = first.only keep ++ second.only keep := by
  simp [only]

/-- Nothing happens in an empty journal. -/
@[simp]
theorem only_nil (keep : Occurrence → Bool) : only keep [] = [] := rfl

/-- What happens of a narrow sort happens of a wide one. -/
theorem only_of_imp {narrow wide : Occurrence → Bool} (journal : Journal)
    (imp : ∀ what, narrow what = true → wide what = true) :
    journal.only narrow = (journal.only wide).filter narrow := by
  rw [only, only, List.filter_filter]
  congr 1
  funext what
  cases kept : narrow what with
  | false => rfl
  | true => simp [imp what kept]

/-- The settlement that happens, if it is one. -/
def settlement? : Occurrence → Option (Nat × Decision)
  | .settled tag decision => some (tag, decision)
  | _ => none

/-- The event for which the store is called, if it is. -/
def storeCall? : Occurrence → Option Event
  | .storeCalled event => some event
  | _ => none

/-- A view that looks at one sort only can be taken after everything else is left out. -/
theorem filterMap_only {α : Type} {keep : Occurrence → Bool} {view : Occurrence → Option α}
    (blind : ∀ what, keep what = false → view what = none) (journal : Journal) :
    journal.filterMap (fun entry => view entry.what) = (journal.only keep).filterMap view := by
  induction journal with
  | nil => rfl
  | cons entry rest ih =>
    simp only [only, List.map_cons, List.filter_cons] at ih ⊢
    cases kept : keep entry.what with
    | false => simp [blind entry.what kept, ih]
    | true => simp [List.filterMap_cons, ih]

/-- Settlements are deeds. -/
theorem settlements_eq (journal : Journal) :
    journal.settlements = journal.deeds.filterMap settlement? := by
  have deeds : ∀ what, what.isDeed = false → settlement? what = none := by
    intro what
    cases what <;> simp [Occurrence.isDeed, settlement?]
  rw [Journal.deeds, ← filterMap_only deeds]
  rfl

/-- Calls of the store are deeds. -/
theorem storeCalls_eq (journal : Journal) :
    journal.storeCalls = journal.deeds.filterMap storeCall? := by
  have deeds : ∀ what, what.isDeed = false → storeCall? what = none := by
    intro what
    cases what <;> simp [Occurrence.isDeed, storeCall?]
  rw [Journal.deeds, ← filterMap_only deeds]
  rfl

end Journal

/-- One run and then another one. -/
def Run.andThen {α β : Type} (first : Run α) (second : Run β) : Run β :=
  ⟨first.journal ++ second.journal, second.world, second.value⟩

/-- It does not matter how runs in a row are grouped. -/
theorem Run.andThen_assoc {α β γ : Type} (first : Run α) (second : Run β) (third : Run γ) :
    (first.andThen second).andThen third = first.andThen (second.andThen third) := by
  simp only [andThen, List.append_assoc]

namespace Sim

variable {α β : Type}

/-- A value comes of nothing. -/
@[simp]
theorem pure_apply (value : α) (world : World) : (pure value : Sim α) world = ⟨[], world, value⟩ :=
  rfl

/-- A look at the world changes nothing. -/
@[simp]
theorem world_apply (world : World) : Sim.world world = ⟨[], world, world⟩ := rfl

/-- Two runs one after the other, in whole. -/
theorem bind_apply (first : Sim α) (next : α → Sim β) (world : World) :
    (first >>= next) world =
      let run := first world
      let rest := next run.value run.world
      ⟨run.journal ++ rest.journal, rest.world, rest.value⟩ := rfl

/-- To bind runs is to put one after the other. -/
theorem bind_eq_andThen (first : Sim α) (next : α → Sim β) (world : World) :
    (first >>= next) world =
      (first world).andThen (next (first world).value (first world).world) := rfl

/-- The journal of two runs one after the other. -/
@[simp]
theorem bind_journal (first : Sim α) (next : α → Sim β) (world : World) :
    ((first >>= next) world).journal =
      (first world).journal ++ (next (first world).value (first world).world).journal := rfl

/-- The world after two runs one after the other. -/
@[simp]
theorem bind_world (first : Sim α) (next : α → Sim β) (world : World) :
    ((first >>= next) world).world = (next (first world).value (first world).world).world := rfl

/-- The value of two runs one after the other. -/
@[simp]
theorem bind_value (first : Sim α) (next : α → Sim β) (world : World) :
    ((first >>= next) world).value = (next (first world).value (first world).world).value := rfl

/-- How a run goes on depends on its value. -/
theorem bind_of_value {first : Sim α} {world : World} {value : α}
    (is : (first world).value = value) (next : α → Sim β) :
    (first >>= next) world = (first >>= fun _ => next value) world := by
  rw [bind_eq_andThen, bind_eq_andThen, is]

/-- A run that begins with a look at the world. -/
@[simp]
theorem world_bind (next : World → Sim α) (world : World) :
    (Sim.world >>= next) world = next world world := rfl

/-- A run whose value is replaced. -/
@[simp]
theorem bind_pure_apply (run : Sim α) (value : β) (world : World) :
    (run >>= fun _ => pure value) world = ⟨(run world).journal, (run world).world, value⟩ := by
  change (⟨(run world).journal ++ [], (run world).world, value⟩ : Run β) = _
  rw [List.append_nil]

/-- A value that comes of nothing is there at once. -/
protected theorem pure_bind (value : α) (next : α → Sim β) : pure value >>= next = next value := rfl

/-- Runs one after another can be put together in any order. -/
theorem bind_assoc {γ : Type} (first : Sim α) (next : α → Sim β) (last : β → Sim γ) :
    (first >>= next) >>= last = first >>= fun value => next value >>= last := by
  funext world
  exact congrArg (Run.mk · _ _) (List.append_assoc _ _ _)

/-- A run that is chosen by a condition. -/
@[simp]
theorem ite_apply (condition : Prop) [Decidable condition] (yes no : Sim α) (world : World) :
    (if condition then yes else no) world = if condition then yes world else no world := by
  split <;> rfl

/-! ## Waiting for the signal -/

/-- The signal ends a wait at a time, before something else that is due after so many
milliseconds. -/
def Precedes (world : World) (millis : Nat) (tie : Tie) (time : Nat) : Prop :=
  world.signalTime? = some time ∧
    (time < world.now + millis ∨ time = world.now + millis ∧ tie = .signal)

/-- A wait that the signal may end lasts until the signal, or else to its end. -/
theorem waitUnlessSignalled_cases (millis : Nat) (tie : Tie) (world : World) :
    (∃ time, Precedes world millis tie time ∧
      waitUnlessSignalled millis tie world =
        ⟨(wait (time - world.now) world).journal, (wait (time - world.now) world).world, true⟩) ∨
    ((∀ time, ¬Precedes world millis tie time) ∧
      waitUnlessSignalled millis tie world =
        ⟨(wait millis world).journal, (wait millis world).world, false⟩) := by
  rw [waitUnlessSignalled, world_bind]
  cases planned : world.signalTime? with
  | none =>
    right
    exact ⟨by simp [Precedes, planned], bind_pure_apply _ _ _⟩
  | some time =>
    by_cases first : time < world.now + millis ∨ time = world.now + millis ∧ tie = .signal
    · left
      refine ⟨time, ⟨planned, first⟩, ?_⟩
      simp only [ite_apply]
      rw [if_pos (by simpa using first), bind_pure_apply]
    · right
      refine ⟨by simpa [Precedes, planned] using first, ?_⟩
      simp only [ite_apply]
      rw [if_neg (by simpa using first), bind_pure_apply]

/-- A wait for the signal that comes at some time lasts until then. -/
theorem waitForSignal_apply {world : World} {time : Nat} (comes : world.signalTime? = some time) :
    waitForSignal world = wait (time - world.now) world := by
  rw [waitForSignal, world_bind, comes]

/-! ## Time -/

/-- Nothing takes time by happening. -/
@[simp]
theorem happen_now (what : Occurrence) (world : World) :
    (happen what world).world.now = world.now := by
  unfold happen
  split
  · split <;> rfl
  · rfl

/-- Asking for a stop takes no time. -/
@[simp]
theorem stopIf_now (wanted : Bool) (world : World) :
    (stopIf wanted world).world.now = world.now := by
  cases wanted <;> rfl

/-- Waiting takes its time. -/
@[simp]
theorem wait_now (millis : Nat) (world : World) :
    (wait millis world).world.now = world.now + millis := by
  unfold wait
  cases world.planned with
  | none => rfl
  | some plan =>
    simp only
    split <;> rfl

/-- Many things that happen take no time. -/
@[simp]
theorem happenAll_now (whats : List Occurrence) (world : World) :
    (happenAll whats world).world.now = world.now := by
  induction whats generalizing world with
  | nil => rfl
  | cons what rest ih =>
    simp only [happenAll, bind_world]
    rw [ih, happen_now]

/-- A store's deeds take no time. -/
@[simp]
theorem perform_now (deeds : List Consumer.StoreDeed) (world : World) :
    (Consumer.perform deeds world).world.now = world.now := happenAll_now _ _

/-! ## What happens of a sort -/

/-- A sort without what is said about the signal. -/
abbrev IgnoresSignals (keep : Occurrence → Bool) : Prop :=
  ∀ change source, keep (.signalled change source) = false

/-- Deeds say nothing about the signal. -/
theorem isDeed_ignoresSignals : IgnoresSignals Occurrence.isDeed := fun _ _ => rfl

variable {keep : Occurrence → Bool}

/-- Of what happens, that is kept which is of the sort. -/
theorem only_happen (ignores : IgnoresSignals keep) (what : Occurrence) (world : World) :
    (happen what world).journal.only keep = [what].filter keep := by
  unfold happen
  split
  · split
    · simp [Journal.only, List.filter_cons, ignores]
    · rfl
  · rfl

/-- Asking for a stop is not of the sort. -/
theorem only_stopIf (ignores : IgnoresSignals keep) (wanted : Bool) (world : World) :
    (stopIf wanted world).journal.only keep = [] := by
  cases wanted with
  | false => rfl
  | true => simp [stopIf, signal, Journal.only, ignores]

/-- Nothing of the sort happens in a wait. -/
theorem only_wait (ignores : IgnoresSignals keep) (millis : Nat) (world : World) :
    (wait millis world).journal.only keep = [] := by
  unfold wait
  cases world.planned with
  | none => rfl
  | some plan =>
    simp only
    split
    · simp [Journal.only, ignores]
    · rfl

/-- Of many things that happen, those are kept which are of the sort. -/
theorem only_happenAll (ignores : IgnoresSignals keep) (whats : List Occurrence) (world : World) :
    (happenAll whats world).journal.only keep = whats.filter keep := by
  induction whats generalizing world with
  | nil => rfl
  | cons what rest ih =>
    simp only [happenAll, bind_journal, Journal.only_append]
    rw [ih, only_happen ignores, ← List.filter_append, List.singleton_append]

/-- Nothing of the sort happens in a wait that the signal may end. -/
theorem only_waitUnlessSignalled (ignores : IgnoresSignals keep) (millis : Nat) (tie : Tie)
    (world : World) : (waitUnlessSignalled millis tie world).journal.only keep = [] := by
  obtain ⟨time, _, waited⟩ | ⟨_, waited⟩ := waitUnlessSignalled_cases millis tie world
  · rw [waited]
    exact only_wait ignores _ _
  · rw [waited]
    exact only_wait ignores _ _

end Sim

end EventLedger

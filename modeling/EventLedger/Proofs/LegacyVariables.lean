import EventLedger.Proofs.Fields
import EventLedger.Settings.Loading

/-!
# The effect of legacy variables

Legacy variables are applied one after another until one cannot be read. The settings are then those
from before with exactly the fields of the variables that came before it replaced; applied once
more, the variables change nothing. When settings are loaded, nothing is seen of settings to which
not all variables could be applied.
-/
namespace EventLedger

namespace LegacyVariable

/-- All of the older variables are listed. -/
theorem mem_all (origin : LegacyVariable) : origin ∈ LegacyVariable.all := by
  cases origin <;> decide

variable (lookup : String → Option String)

/-- The text that is given for a variable: an empty one counts as none. -/
def given? (origin : LegacyVariable) : Option String := (lookup origin.name).filter (· ≠ "")

/-- What is given for a variable, if anything is, can be read. -/
def IsReadable (origin : LegacyVariable) : Prop :=
  ∀ raw, origin.given? lookup = some raw → (origin.field.kind.ofText? raw).isSome

/-- The field of a variable has the value that is given for it, if one is. -/
def IsHeld (settings : Settings) (origin : LegacyVariable) : Prop :=
  ∀ raw, origin.given? lookup = some raw →
    origin.field.kind.ofText? raw = some (origin.field.value settings)

end LegacyVariable

namespace Settings

variable (lookup : String → Option String)

/-- Settings in which exactly the fields of the variables that are given have been replaced. -/
structure Replaced (origins : List LegacyVariable) (before after : Settings) : Prop where
  /-- The field of a variable that is given has the value that its text spells. -/
  held : ∀ origin ∈ origins, origin.IsHeld lookup after
  /-- Every other field has the value from before. -/
  kept : ∀ field : Field,
    (∀ origin ∈ origins, origin.field = field → origin.given? lookup = none) →
      field.value after = field.value before

/-- What comes of applying variables to settings. -/
inductive Applied (origins : List LegacyVariable) (before : Settings) :
    Settings × Except ServiceError Unit → Prop where
  /-- All can be read, and have been applied. -/
  | wholly {after : Settings} (readable : ∀ origin ∈ origins, origin.IsReadable lookup)
      (replaced : Replaced lookup origins before after) :
      Applied origins before (after, .ok ())
  /-- The first one that cannot be read is named with its text, and those before it have been
  applied. -/
  | partly {earlier later : List LegacyVariable} {origin : LegacyVariable} {raw : String}
      {after : Settings} (split : origins = earlier ++ origin :: later)
      (readable : ∀ other ∈ earlier, other.IsReadable lookup)
      (given : origin.given? lookup = some raw) (unreadable : origin.field.kind.ofText? raw = none)
      (replaced : Replaced lookup earlier before after) :
      Applied origins before
        (after, .error (.invalidSetting origin.name ("无法解析的值: " ++ raw)))

variable {lookup} {origin : LegacyVariable} {origins : List LegacyVariable}
variable {settings after : Settings}

/-! ## One variable -/

/-- A variable for which nothing is given is passed over. -/
theorem applyVariables_of_absent (absent : origin.given? lookup = none) :
    applyVariables lookup (origin :: origins) settings =
      applyVariables lookup origins settings := by
  rw [applyVariables]
  cases said : lookup origin.name with
  | none => rfl
  | some raw =>
    rw [LegacyVariable.given?, said] at absent
    by_cases empty : raw = ""
    · simp only [if_pos empty]
    · rw [Option.filter_some, if_pos (by simpa using empty)] at absent
      cases absent

/-- A variable for which something is given is applied. -/
theorem applyVariables_of_given {raw : String} (given : origin.given? lookup = some raw) :
    applyVariables lookup (origin :: origins) settings =
      match origin.field.kind.ofText? raw with
      | some value => applyVariables lookup origins (origin.field.set settings value)
      | none => (settings, .error (origin.unreadable raw)) := by
  obtain ⟨said, something⟩ := Option.filter_eq_some_iff.mp given
  have filled : raw ≠ "" := of_decide_eq_true something
  rw [applyVariables, said]
  simp only [if_neg filled, LegacyVariable.apply]
  cases origin.field.kind.ofText? raw <;> rfl

/-! ## All variables -/

namespace Replaced

/-- Without variables nothing is replaced. -/
theorem nil (settings : Settings) : Replaced lookup [] settings settings where
  held := by simp
  kept := fun _ _ => rfl

/-- A variable for which nothing is given can be put in front. -/
theorem skip (absent : origin.given? lookup = none)
    (replaced : Replaced lookup origins settings after) :
    Replaced lookup (origin :: origins) settings after where
  held := by
    refine List.forall_mem_cons.mpr ⟨?_, replaced.held⟩
    intro raw given
    rw [absent] at given
    cases given
  kept := fun field unset =>
    replaced.kept field fun other among => unset other (List.mem_cons_of_mem _ among)

/-- A variable can be put in front whose field is that of no other. -/
theorem cons {raw : String} {value : origin.field.kind.Value}
    (given : origin.given? lookup = some raw) (read : origin.field.kind.ofText? raw = some value)
    (alone : ∀ other ∈ origins, other.field ≠ origin.field)
    (replaced : Replaced lookup origins (origin.field.set settings value) after) :
    Replaced lookup (origin :: origins) settings after where
  held := by
    refine List.forall_mem_cons.mpr ⟨?_, replaced.held⟩
    have stays : origin.field.value after = value := by
      rw [replaced.kept origin.field fun other among same => absurd same (alone other among),
        Field.value_set]
    intro text also
    obtain rfl : raw = text := Option.some.inj (given.symm.trans also)
    rw [stays, read]
  kept := by
    intro field unset
    have others := replaced.kept field fun other among => unset other (List.mem_cons_of_mem _ among)
    have different : origin.field ≠ field := fun same => by
      have absent := unset origin List.mem_cons_self same
      rw [given] at absent
      cases absent
    rw [others, Field.value_set_of_ne different]

end Replaced

/-- What comes of variables of distinct fields. -/
theorem applyVariables_applied (once : (origins.map LegacyVariable.field).Nodup)
    (settings : Settings) :
    Applied lookup origins settings (applyVariables lookup origins settings) := by
  induction origins generalizing settings with
  | nil => exact .wholly (by simp) (.nil settings)
  | cons origin rest ih =>
    rw [List.map_cons, List.nodup_cons] at once
    have alone : ∀ other ∈ rest, other.field ≠ origin.field := fun other among same =>
      once.1 (same ▸ List.mem_map_of_mem among)
    cases given : origin.given? lookup with
    | none =>
      have passed : origin.IsReadable lookup := fun raw also => by
        rw [given] at also
        cases also
      rw [applyVariables_of_absent given]
      have applied := ih once.2 settings
      generalize applyVariables lookup rest settings = done at applied
      cases applied with
      | wholly readable replaced =>
        exact .wholly (List.forall_mem_cons.mpr ⟨passed, readable⟩) (replaced.skip given)
      | partly split readable said unreadable replaced =>
        exact .partly (congrArg _ split) (List.forall_mem_cons.mpr ⟨passed, readable⟩) said
          unreadable (replaced.skip given)
    | some raw =>
      rw [applyVariables_of_given given]
      cases read : origin.field.kind.ofText? raw with
      | none => exact .partly rfl (by simp) given read (.nil settings)
      | some value =>
        have legible : origin.IsReadable lookup := fun text also => by
          obtain rfl : raw = text := Option.some.inj (given.symm.trans also)
          rw [read]
          rfl
        have applied := ih once.2 (origin.field.set settings value)
        simp only
        generalize applyVariables lookup rest (origin.field.set settings value) = done at applied
        cases applied with
        | wholly readable replaced =>
          exact .wholly (List.forall_mem_cons.mpr ⟨legible, readable⟩)
            (replaced.cons given read alone)
        | partly split readable said unreadable replaced =>
          refine .partly (congrArg _ split) (List.forall_mem_cons.mpr ⟨legible, readable⟩) said
            unreadable (replaced.cons given read fun other among => alone other ?_)
          rw [split]
          exact List.mem_append_left _ among

/-- Variables whose fields have what is given for them change nothing. -/
theorem applyVariables_append_of_held {earlier : List LegacyVariable}
    (held : ∀ origin ∈ earlier, origin.IsHeld lookup settings) (later : List LegacyVariable) :
    applyVariables lookup (earlier ++ later) settings = applyVariables lookup later settings := by
  induction earlier with
  | nil => rfl
  | cons origin rest ih =>
    rw [List.forall_mem_cons] at held
    rw [List.cons_append]
    cases given : origin.given? lookup with
    | none =>
      rw [applyVariables_of_absent given]
      exact ih held.2
    | some raw =>
      rw [applyVariables_of_given given, held.1 raw given]
      simp only [Field.set_value]
      exact ih held.2

/-- What has come of variables comes of them once more. -/
theorem Applied.again {result : Except ServiceError Unit}
    (applied : Applied lookup origins settings (after, result)) :
    applyVariables lookup origins after = (after, result) := by
  cases applied with
  | wholly readable replaced =>
    have passed := applyVariables_append_of_held replaced.held []
    rw [List.append_nil] at passed
    exact passed
  | partly split readable given unreadable replaced =>
    rw [split, applyVariables_append_of_held replaced.held, applyVariables_of_given given,
      unreadable]
    rfl

/-- No setting is set by two of them. -/
theorem nodup_fields : (LegacyVariable.all.map LegacyVariable.field).Nodup := by decide

/-! ## Loading -/

/-- What is loaded of settings to which variables have been applied: they are checked, unless one
could not be read. -/
def checked : Settings × Except ServiceError Unit → Except ServiceError Settings
  | (after, .ok _) => after.validate >>= fun _ => .ok after
  | (_, .error error) => .error error

/-- Settings that pass the check are those that were read. -/
theorem checked_eq_ok {done : Settings × Except ServiceError Unit} {loaded : Settings}
    (is : checked done = .ok loaded) : done = (loaded, .ok ()) := by
  obtain ⟨after, result⟩ := done
  cases result with
  | error error => cases is
  | ok _ =>
    change (after.validate >>= fun _ => Except.ok after) = _ at is
    cases valid : after.validate with
    | error error =>
      rw [valid] at is
      cases is
    | ok _ =>
      rw [valid] at is
      cases is
      rfl

/-- Loading reads the layers, applies the legacy variables and checks the rules. -/
theorem load_eq (formats : Formats) (service : String) (environment : Environment)
    (files : FileTree) :
    load formats service environment files =
      layeredTree formats service (completeEnvironment environment files) files >>= readTree >>=
        fun found => checked (found.applyLegacy (completeEnvironment environment files).find?) := by
  change (layeredTree formats service _ files >>= readTree >>= fun found => _) = _
  refine congrArg _ (funext fun found => ?_)
  generalize found.applyLegacy _ = done
  obtain ⟨after, applied⟩ := done
  cases applied <;> rfl

/-- Loading from layers that can be read. -/
theorem load_of_readTree {formats : Formats} {service : String} {environment : Environment}
    {files : FileTree}
    {found : Settings}
    (read : layeredTree formats service (completeEnvironment environment files) files >>= readTree =
      .ok found) :
    load formats service environment files =
      checked (found.applyLegacy (completeEnvironment environment files).find?) := by
  rw [load_eq, read]
  rfl

/-- The legacy variables are applied in their order up to the first one that cannot be read, which
the error names. No field without a variable changes, applying them once more changes nothing, and
settings to which not all of them were applied are never the settings that are loaded. -/
theorem applyLegacy_applies (lookup : String → Option String) (settings : Settings) :
    let done := settings.applyLegacy lookup
    Applied lookup LegacyVariable.all settings done ∧
      (∀ field : Field, (∀ origin : LegacyVariable, origin.field ≠ field) →
        field.value done.1 = field.value settings) ∧
      done.1.applyLegacy lookup = done ∧
      ∀ formats service environment files, (completeEnvironment environment files).find? = lookup →
        layeredTree formats service (completeEnvironment environment files) files >>= readTree =
          .ok settings →
        (∀ error, done.2 = .error error → load formats service environment files = .error error) ∧
          ∀ loaded, load formats service environment files = .ok loaded →
            done = (loaded, .ok ()) := by
  intro done
  have result : settings.applyLegacy lookup = done := rfl
  have applied : Applied lookup LegacyVariable.all settings done :=
    applyVariables_applied nodup_fields settings
  clear_value done
  have kept : ∀ origins after, Replaced lookup origins settings after → ∀ field : Field,
      (∀ origin : LegacyVariable, origin.field ≠ field) →
        field.value after = field.value settings := by
    intro origins after replaced field without
    exact replaced.kept field fun origin _ same => absurd same (without origin)
  refine ⟨applied, ?_, applied.again, ?_⟩
  · cases applied with
    | wholly readable replaced => exact kept _ _ replaced
    | partly split readable given unreadable replaced => exact kept _ _ replaced
  · rintro formats service environment files rfl read
    rw [load_of_readTree read, result]
    refine ⟨fun error failed => ?_, fun loaded is => checked_eq_ok is⟩
    obtain ⟨after, failure⟩ := done
    cases failed
    rfl

end Settings

end EventLedger

import EventLedger.Proofs.Deciding
import EventLedger.Proofs.Rounding
import Mathlib.Algebra.Ring.Int.Defs

/-!
# Whole numbers in the settings

A number that a file gives for a setting is the value of the setting, or it is refused: it is never
wrapped, rounded or cut off at the end of a range. So is a number that a variable gives if a word of
64 bits with sign holds it. The text of a variable with another number is taken for a number of
binary64, and that is brought into the words without sign before the width of the setting is looked
at. The numbers that come to themselves on this way are told apart from those that are changed.
-/
namespace EventLedger.Settings

/-! ## Leaves -/

/-- The text of a variable that spells a whole number gives the number, or the number of binary64
that is nearest to it if no word with sign holds it. -/
theorem leaf_of_integer? {text : String} {n : Int} (spells : Text.integer? text = some n) :
    Environment.leaf text =
      if Word.holds n then .integer n else .double (.ofRatio (n < 0) n.natAbs 1) := by
  have form := Text.spellsInteger_of_integer? spells
  obtain ⟨c, rest, is, small⟩ := form.head
  have notWord {first : Char} {others : List Char} {word : String}
      (spelled : word.toList = first :: others) (letter : '9' < first) :
      String.ofList (text.toList.map Char.toLower) ≠ word := by
    intro same
    rw [is] at same
    refine @Text.map_toLower_ne c first rest others small letter ?_
    rw [← spelled, ← same, String.toList_ofList]
  have notTrue := @notWord _ _ "true" rfl (by decide)
  have notFalse := @notWord _ _ "false" rfl (by decide)
  unfold Environment.leaf
  simp only [if_neg notTrue, if_neg notFalse, Text.signed64?, spells]
  cases held : Word.holds n with
  | true => simp [Option.filter, held]
  | false =>
    obtain ⟨negative, read, sign⟩ := Binary64.ofText?_of_spellsInteger form
    have nonzero : n ≠ 0 := by
      rintro rfl
      exact absurd held (by decide)
    simp [Option.filter, held, read, sign nonzero]

/-- A word with a sign holds the numbers on both sides of zero up to the weight of the sign. -/
theorem holds_iff {n : Int} :
    Word.holds n = true ↔ -(Word.signWeight : Int) ≤ n ∧ n < Word.signWeight := by
  rw [Word.holds, Bool.and_eq_true, decide_eq_true_iff, decide_eq_true_iff]

/-- What gives a number. -/
inductive Source where
  /-- A file. -/
  | file
  /-- A variable of the environment. -/
  | environment
  deriving DecidableEq, Repr

namespace Kind

/-- The width of the words of a kind, if its values are words. -/
def bits? : Kind → Option Nat
  | .text | .truth => none
  | .word16 => some 16
  | .word32 => some 32
  | .word64 => some 64

/-- The number that a value is, if it is a word. -/
def number? : (kind : Kind) → kind.Value → Option Int
  | .text, _ | .truth, _ => none
  | .word16, value => some (value.toNat : Int)
  | .word32, value => some (value.toNat : Int)
  | .word64, value => some (value.toNat : Int)

variable {kind : Kind} {bits : Nat}

/-- A value of such a kind is a number of its width. -/
theorem exists_word (width : kind.bits? = some bits) (value : kind.Value) :
    ∃ word : Nat, word < 2 ^ bits ∧ kind.number? value = some (word : Int) := by
  cases kind with
  | text | truth => cases width
  | word16 | word32 | word64 =>
    cases width
    exact ⟨value.toNat, value.toNat_lt, rfl⟩

/-- A number of some width is a word that is below that width. -/
theorem toWidth?_eq_some {tree : Tree} {word : Nat} (read : tree.toWidth? bits = some word) :
    tree.toWord? = some word ∧ word < 2 ^ bits := by
  obtain ⟨whole, fits⟩ := Option.filter_eq_some_iff.mp read
  have small := of_decide_eq_true fits
  rw [Nat.one_shiftLeft] at small
  exact ⟨whole, small⟩

/-- What is converted to a word is a number of its width, and is that number. -/
theorem number?_of_ofTree? (width : kind.bits? = some bits) {tree : Tree} {value : kind.Value}
    (converted : kind.ofTree? tree = some value) :
    ∃ word : Nat,
      tree.toWord? = some word ∧ word < 2 ^ bits ∧ kind.number? value = some (word : Int) := by
  cases kind with
  | text | truth => cases width
  | word16 | word32 | word64 =>
    cases width
    obtain ⟨word, narrow, rfl⟩ := Option.map_eq_some_iff.mp converted
    obtain ⟨read, small⟩ := toWidth?_eq_some narrow
    exact ⟨word, read, small, congrArg (some ∘ Int.ofNat) (Nat.mod_eq_of_lt small)⟩

/-- A whole number is a word as it is. -/
theorem toWord?_integer {n : Int} {word : Nat} (read : (Tree.integer n).toWord? = some word) :
    (word : Int) = n := by
  change (if 0 ≤ n then some n.toNat else none) = some word at read
  split at read
  · rename_i positive
    obtain rfl := Option.some.inj read
    exact Int.toNat_of_nonneg positive
  · cases read

/-- The value of the text of a variable with a number that no word with sign holds. -/
theorem number?_of_leaf (width : kind.bits? = some bits) {text : String} {n : Int}
    (spells : Text.integer? text = some n) (notHeld : Word.holds n = false) {value : kind.Value}
    (converted : kind.ofTree? (Environment.leaf text) = some value) :
    ∃ word : Nat, word < 2 ^ bits ∧ kind.number? value = some (word : Int) ∧
      word = if n < 0 then 0 else (Binary64.ofRatio false n.natAbs 1).toWord.toNat := by
  obtain ⟨word, read, small, is⟩ := number?_of_ofTree? width converted
  rw [leaf_of_integer? spells, notHeld] at read
  have same : (Binary64.ofRatio (n < 0) n.natAbs 1).toWord.toNat = word := Option.some.inj read
  refine ⟨word, small, is, ?_⟩
  rw [← same]
  by_cases negative : n < 0
  · rw [if_pos negative, decide_eq_true negative, Binary64.toWord_ofRatio_negative]
    rfl
  · rw [if_neg negative, decide_eq_false negative]

/-- The numbers that a source gives as they are or not at all: all of a file, and of a variable
those that a word with sign holds and those above. Of the latter narrower words refuse all, and
words of 64 bits take as they are what binary64 holds, and the greatest word, at which the others
are cut off. -/
def Keeps (kind : Kind) : Source → Int → Prop
  | .file, _ => True
  | .environment, n => -(Word.signWeight : Int) ≤ n ∧ (kind = .word64 → n < Word.signWeight ∨
      n ≤ Word.greatest ∧ ((Binary64.spacing : Int) ∣ n ∨ n = Word.greatest))

/-- Whether a number is kept is decided by its bounds. -/
instance (kind : Kind) (source : Source) (n : Int) : Decidable (kind.Keeps source n) :=
  match source with
  | .file => inferInstanceAs (Decidable True)
  | .environment => inferInstanceAs (Decidable (_ ∧ _))

/-- All widths but that of the word have at most 32 bits. -/
theorem bits_le_of_ne (width : kind.bits? = some bits) (narrow : kind ≠ .word64) : bits ≤ 32 := by
  cases kind with
  | word64 => exact absurd rfl narrow
  | text | truth | word16 | word32 => cases width <;> decide

/-- Above the words with sign those are kept that come to themselves through binary64. -/
theorem keeps_iff_of_large {n : Int} (large : (Word.signWeight : Int) ≤ n) :
    kind.Keeps .environment n ↔
      (kind = .word64 → (Binary64.ofRatio false n.natAbs 1).toWord.toNat = n.natAbs) := by
  have natural : Word.signWeight ≤ n.natAbs := by omega
  have least : -(Word.signWeight : Int) ≤ n := by omega
  rw [Binary64.toWord_ofRatio_eq_iff natural, ← Int.natCast_dvd]
  constructor
  · rintro ⟨_, kept⟩ wide
    obtain below | ⟨word, rest⟩ := kept wide
    · exact absurd below (Int.not_lt.mpr large)
    · exact ⟨by omega, rest.imp_right (by omega)⟩
  · intro kept
    refine ⟨least, fun wide => .inr ?_⟩
    obtain ⟨word, rest⟩ := kept wide
    exact ⟨by omega, rest.imp_right (by omega)⟩

/-- The value of the text of a variable is the number that it spells if this is one of those. -/
theorem number?_of_leaf_iff (width : kind.bits? = some bits) {text : String} {n : Int}
    (spells : Text.integer? text = some n) {value : kind.Value}
    (converted : kind.ofTree? (Environment.leaf text) = some value) :
    kind.number? value = some n ↔ kind.Keeps .environment n := by
  cases held : Word.holds n with
  | true =>
    obtain ⟨least, most⟩ := holds_iff.mp held
    obtain ⟨word, read, small, is⟩ := number?_of_ofTree? width converted
    rw [leaf_of_integer? spells, held] at read
    refine iff_of_true ?_ ⟨least, fun _ => .inl most⟩
    rw [is, toWord?_integer read]
  | false =>
    obtain ⟨word, small, is, same⟩ := number?_of_leaf width spells held converted
    have outside : n < -(Word.signWeight : Int) ∨ (Word.signWeight : Int) ≤ n := by
      have apart := mt holds_iff.mpr (Bool.eq_false_iff.mp held)
      omega
    rw [is, Option.some.injEq]
    rcases outside with below | large
    · -- It comes to nought.
      have negative : n < 0 := by omega
      rw [if_pos negative] at same
      refine iff_of_false ?_ fun keeps => absurd keeps.1 (Int.not_le.mpr below)
      omega
    · have positive : ¬n < 0 := by omega
      rw [if_neg positive] at same
      rw [keeps_iff_of_large large]
      by_cases wide : kind = .word64
      · rw [← same, imp_iff_right wide]
        omega
      · -- Narrower words do not hold what it comes to.
        have natural : Word.signWeight ≤ n.natAbs := by omega
        have high := Binary64.le_toWord_ofRatio natural
        have narrow := bits_le_of_ne width wide
        have bound : 2 ^ bits ≤ 2 ^ 32 := Nat.pow_le_pow_right (by decide) narrow
        have apart : 2 ^ 32 < Word.signWeight := by decide
        omega

end Kind

/-! ## Loading -/

/-- A whole number is the last that is said about a field. -/
inductive Field.IsNumbered (field : Field) (formats : Formats) (service : String)
    (environment : Environment) (files : FileTree) : Source → Int → Prop where
  /-- A file says it. -/
  | said {n : Int} (decided : field.IsDecided formats service environment files (.integer n)) :
    field.IsNumbered formats service environment files .file n
  /-- The text of a variable spells it. -/
  | spelled {text : String} {n : Int}
    (decided : field.IsDecided formats service environment files (Environment.leaf text))
    (spells : Text.integer? text = some n) :
    field.IsNumbered formats service environment files .environment n

/-- When settings are loaded, a number that is said about a field is its value if it is one of those
that are kept, and only then; and of those one that words of the width do not hold is refused. -/
theorem load_keeps_number {field : Field} {bits : Nat} (width : field.kind.bits? = some bits)
    {source : Source} {n : Int} {formats : Formats} {service : String} {environment : Environment}
    {files : FileTree}
    (numbered :
      field.IsNumbered formats service (completeEnvironment environment files) files source n)
    (unset : field.legacyText? (completeEnvironment environment files) = none) :
    (∀ settings, load formats service environment files = .ok settings →
        (field.kind.number? (field.value settings) = some n ↔ field.kind.Keeps source n)) ∧
      (field.kind.Keeps source n → n < 0 ∨ 2 ^ bits ≤ n →
        ∃ error, load formats service environment files = .error error) := by
  have value : ∀ settings, load formats service environment files = .ok settings →
      (field.kind.number? (field.value settings) = some n ↔ field.kind.Keeps source n) := by
    intro settings loaded
    cases numbered with
    | said decided =>
      have converted := load_takes_decided decided unset loaded
      obtain ⟨word, read, _, is⟩ := Kind.number?_of_ofTree? width converted
      refine iff_of_true ?_ trivial
      rw [is, Kind.toWord?_integer read]
    | spelled decided spells =>
      have converted := load_takes_decided decided unset loaded
      exact Kind.number?_of_leaf_iff width spells converted
  refine ⟨value, fun keeps outside => ?_⟩
  cases loaded : load formats service environment files with
  | error error => exact ⟨error, rfl⟩
  | ok settings =>
    have is := (value settings loaded).mpr keeps
    obtain ⟨word, small, same⟩ := Kind.exists_word width (field.value settings)
    rw [same] at is
    have number := Option.some.inj is
    have natural : (word : Int) < 2 ^ bits := by exact_mod_cast small
    omega

/-- The number of a document that has one number, with its section and its name. -/
def onlyNumber? : List (String × Toml.Value) → Option (String × String × Int)
  | [(key, .table [(name, .integer n)])] => some (key, name, n)
  | _ => none

/-- A document of one number has no more than its section. -/
theorem eq_of_onlyNumber? {members : List (String × Toml.Value)} {key name : String} {n : Int}
    (only : onlyNumber? members = some (key, name, n)) :
    members = [(key, .table [(name, .integer n)])] := by
  unfold onlyNumber? at only
  split at only
  · cases only
    rfl
  · cases only

/-- The text of the file of a service. -/
def numberText : String := "[worker]\nretry_delay_ms=12\n"

/-- Files that give the same number for all environments and for the service. -/
def numberFiles : FileTree :=
  .ofPaths [("config/default.toml", "[worker]\nretry_delay_ms=1\n"),
    ("config/minichat-worker.toml", numberText)] ""

/-- A number of a file is the value of its setting, and one that a variable gives beyond all words
with sign is refused as the number of a port. -/
theorem few_numbers_are_kept :
    (∀ settings, load .native "minichat-worker" [] numberFiles = .ok settings →
        Kind.word64.number? settings.worker.retryDelayMillis = some 12) ∧
      ∃ error, load .native "minichat-worker"
        [("MINICHAT__OBSERVABILITY__METRICS_PORT", "9223372036854775808")] numberFiles =
          .error error := by
  have only : (Toml.spelled? (Text.withoutByteOrderMark numberText)).bind onlyNumber? =
      some ("worker", "retry_delay_ms", 12) := by decide +kernel
  obtain ⟨members, written, number⟩ := Option.bind_eq_some_iff.mp only
  obtain rfl := eq_of_onlyNumber? number
  have last : Field.retryDelay.IsLastGiven
      (Tree.ofTomlMembers [("worker", .table [("retry_delay_ms", .integer 12)])])
      (.integer 12) :=
    ⟨[], _, [], rfl, .inSection rfl (by decide +kernel) rfl, by simp⟩
  have alone : completeEnvironment [] numberFiles = [] := by decide +kernel
  have paths : filePaths "minichat-worker" (completeEnvironment [] numberFiles) =
      ["config/default.toml", "config/development.toml"] ++
        "config/minichat-worker.toml" :: [] := by decide +kernel
  have found : findFile? .native numberFiles "config/minichat-worker.toml" =
      some (.toml, numberText) := by
    decide +kernel
  have inFile : Field.retryDelay.IsDecided .native "minichat-worker"
      (completeEnvironment [] numberFiles) numberFiles (.integer 12) :=
    .ofFile paths found written last (by simp) (by rw [alone]; simp [Environment.settings])
  have port : completeEnvironment
      [("MINICHAT__OBSERVABILITY__METRICS_PORT", "9223372036854775808")] numberFiles =
        [] ++ ("MINICHAT__OBSERVABILITY__METRICS_PORT", "9223372036854775808") :: [] := by
    decide +kernel
  have leads : Environment.settingName? "MINICHAT__OBSERVABILITY__METRICS_PORT" =
      some "observability.metrics_port" := by decide +kernel
  have place : Path.ofName "observability.metrics_port" = Field.metricsPort.keys.map .key := by
    decide +kernel
  have inVariable : Field.metricsPort.IsDecided .native "minichat-worker" (completeEnvironment
      [("MINICHAT__OBSERVABILITY__METRICS_PORT", "9223372036854775808")] numberFiles) numberFiles
        (Environment.leaf "9223372036854775808") :=
    .ofVariable port leads place (by simp [Environment.settings])
  have spells : Text.integer? "9223372036854775808" = some 9223372036854775808 := by
    decide +kernel
  have kept := load_keeps_number rfl (.said inFile) (by rw [alone]; rfl)
  have refused := load_keeps_number rfl (.spelled inVariable spells) (by rw [port]; decide +kernel)
  refine ⟨fun settings loaded => (kept.1 settings loaded).mpr trivial, ?_⟩
  exact refused.2 (by decide +kernel) (.inr (by decide +kernel))

/-- The number of a variable that no word with sign holds is not refused as such: with the minus it
comes to nought, and without to the nearest number of binary64, up to the greatest word. The other
name of the same setting does not have its number rounded: it is refused. -/
example :
    let loaded (name text : String) : Option Settings :=
      (load .native "minichat-worker" [(name, text)] (.ofPaths [] "")).toOption
    (loaded "MINICHAT__OBSERVABILITY__METRICS_PORT" "-9223372036854775809").map
        (·.observability.metricsPort) = some 0 ∧
      (loaded "MINICHAT__WORKER__RETRY_DELAY_MS" "18446744073709551616").map
        (·.worker.retryDelayMillis) = some 18446744073709551615 ∧
      loaded "WORKER_RETRY_DELAY_MS" "18446744073709551616" = none := by
  decide +kernel

end EventLedger.Settings

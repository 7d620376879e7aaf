/-!
# Words

The ranges of the words of 64 bits in which counts, limits and times are kept.
-/
namespace EventLedger.Word

/-- The greatest word without sign. -/
abbrev greatest : Nat := 0xFFFFFFFFFFFFFFFF

/-- The weight of the sign bit: words with sign lie below it, and not below its negation. -/
abbrev signWeight : Nat := 0x8000000000000000

/-- Whether a word with sign holds a whole number. -/
def holds (value : Int) : Bool := -(signWeight : Int) ≤ value && value < (signWeight : Int)

end EventLedger.Word

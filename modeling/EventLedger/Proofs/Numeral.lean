import Mathlib.Data.List.Forall2
import Mathlib.Data.Nat.Digits.Lemmas

/-!
# Numerals

What digits are and which number they spell, for any base up to 36 and whatever the digits are
written in: only the codes of their characters matter. Readers work from the left and keep the
value so far; `foldl_digits` is what ties them to the place values.
-/
namespace EventLedger

/-- A code is that of a digit of a base, with its value; letters of either case come after nine. -/
def IsDigit (base code value : Nat) : Prop :=
  value < base ∧ (value < 10 ∧ code = '0'.toNat + value ∨
    10 ≤ value ∧ (code = 'a'.toNat + (value - 10) ∨ code = 'A'.toNat + (value - 10)))

/-- The number of digits by their place values, the most significant digit first. -/
def placeValue (base : Nat) (digits : List Nat) : Nat := Nat.ofDigits base digits.reverse

variable {base : Nat}

/-- Reading one digit after the other gives the number by place values. -/
theorem foldl_digits (base : Nat) (digits : List Nat) :
    digits.foldl (fun value d => value * base + d) 0 = placeValue base digits := by
  rw [placeValue, Nat.ofDigits_eq_foldr, List.foldr_reverse]
  congr 1
  funext value d
  rw [Nat.mul_comm, Nat.add_comm]
  rfl

/-- One more digit at the end is worth itself, and the others are worth more. -/
theorem placeValue_concat (digits : List Nat) (d : Nat) :
    placeValue base (digits ++ [d]) = placeValue base digits * base + d := by
  rw [← foldl_digits, List.foldl_append, foldl_digits]
  rfl

/-- Digits below a base have a value below its power. -/
theorem placeValue_lt {digits : List Nat} (two : 1 < base) (small : ∀ d ∈ digits, d < base) :
    placeValue base digits < base ^ digits.length := by
  have bound := Nat.ofDigits_lt_base_pow_length two (l := digits.reverse) (by simpa using small)
  rwa [List.length_reverse] at bound

namespace IsDigit

variable {code value : Nat}

/-- A code is that of at most one digit. -/
theorem unique {other : Nat} (digit : IsDigit base code value) (again : IsDigit base code other)
    (fits : base ≤ 36) : value = other := by
  simp only [IsDigit, Char.reduceToNat] at digit again
  omega

/-- A decimal digit. -/
theorem decimal_iff : IsDigit 10 code value ↔ value < 10 ∧ code = '0'.toNat + value := by
  simp only [IsDigit]
  omega

/-- What spells digits consists of digits. -/
theorem exists_of_mem {α : Type} {codeOf : α → Nat} {items : List α} {digits : List Nat}
    (spelled : List.Forall₂ (fun item d => IsDigit base (codeOf item) d) items digits) {item : α}
    (among : item ∈ items) : ∃ d, IsDigit base (codeOf item) d := by
  induction spelled with
  | nil => cases among
  | cons digit _ ih =>
    obtain rfl | behind := List.mem_cons.mp among
    · exact ⟨_, digit⟩
    · exact ih behind

/-- Every value below the base has a digit. -/
theorem exists_code (fits : base ≤ 36) (small : value < base) :
    ∃ code < 128, IsDigit base code value := by
  by_cases decimal : value < 10
  · refine ⟨'0'.toNat + value, ?_, small, .inl ⟨decimal, rfl⟩⟩
    simp only [Char.reduceToNat]
    omega
  · refine ⟨'a'.toNat + (value - 10), ?_, small, .inr ⟨by omega, .inl rfl⟩⟩
    simp only [Char.reduceToNat]
    omega

end IsDigit

/-! ## The digits of a number -/

/-- A number has digits of every length that is enough for it. -/
theorem exists_digits (positive : 0 < base) (length : Nat) {number : Nat}
    (small : number < base ^ length) :
    ∃ digits, digits.length = length ∧ (∀ d ∈ digits, d < base) ∧
      placeValue base digits = number := by
  induction length generalizing number with
  | zero =>
    have zero : number = 0 := by simpa using small
    exact ⟨[], rfl, List.forall_mem_nil _, zero.symm⟩
  | succ length ih =>
    have fewer : number / base < base ^ length := by
      rw [Nat.pow_succ] at small
      exact Nat.div_lt_of_lt_mul (by rwa [Nat.mul_comm])
    obtain ⟨digits, long, below, value⟩ := ih fewer
    refine ⟨digits ++ [number % base], by simp [long], ?_, ?_⟩
    · rw [List.forall_mem_append, List.forall_mem_singleton]
      exact ⟨below, Nat.mod_lt _ positive⟩
    · rw [placeValue_concat, value]
      exact Nat.div_add_mod' number base

/-- A number has decimal digits without a zero in front, but for zero itself. -/
theorem exists_decimal (number : Nat) :
    ∃ digits, (∀ d ∈ digits, d < 10) ∧ digits ≠ [] ∧ (digits.head? = some 0 → digits = [0]) ∧
      placeValue 10 digits = number := by
  by_cases zero : number = 0
  · subst zero
    exact ⟨[0], by simp, by simp, by simp, rfl⟩
  · have nonempty : Nat.digits 10 number ≠ [] := Nat.digits_ne_nil_iff_ne_zero.mpr zero
    refine ⟨(Nat.digits 10 number).reverse, fun d among => ?_, ?_, fun first => ?_, ?_⟩
    · exact Nat.digits_lt_base (by decide) (List.mem_reverse.mp among)
    · rwa [Ne, List.reverse_eq_nil_iff]
    · rw [List.head?_reverse, List.getLast?_eq_some_getLast nonempty, Option.some.injEq] at first
      exact absurd first (Nat.getLast_digit_ne_zero 10 zero)
    · rw [placeValue, List.reverse_reverse, Nat.ofDigits_digits]

end EventLedger

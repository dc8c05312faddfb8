import AccountPortal.Form.Field
import Mathlib.Algebra.Ring.Int.Defs
import Mathlib.Algebra.Ring.Nat

/-!
# Whole numbers

A binary number stands for an integer when it is one, and for no integer otherwise. Strictly inside
a word it is then read as the integer itself is, by the readers of integers and of flags:

    x.toInt? = some n → readInteger (.number x) = readInteger (.int n)           (readInteger_whole)
    x.toInt? = some n → readFlag (.number x) = readFlag (.int n)                    (readFlag_whole)

Any other number is refused where an integer is asked for, each kind with its own complaint
(`wholeNumber_eq_error_iff`).
-/

namespace AccountPortal

namespace Binary64

variable {x : Binary64} {n : Int} {mantissa : Nat} {exponent : Int} {negative : Bool}

/-- The mantissa over the power of two that is left below the point. -/
theorem scaled_one_neg (mantissa : Nat) (exponent : Int) :
    scaled mantissa 1 (-exponent) = (mantissa * 2 ^ exponent.toNat, 2 ^ (-exponent).toNat) := by
  unfold scaled
  by_cases h : -exponent ≥ 0
  · have below : exponent.toNat = 0 := by omega
    rw [if_pos h, below, Nat.pow_zero, Nat.mul_one, Nat.one_mul]
    rfl
  · have above : (-exponent).toNat = 0 := by omega
    rw [if_neg h, above, Int.neg_neg]
    rfl

/-- A signed quotient is the integer that gives the signed dividend back. -/
theorem signed_div_eq_iff {above unit : Nat} (positive : 0 < unit) :
    (if above % unit = 0 then
        some (if negative then -((above / unit : Nat) : Int) else (above / unit : Nat)) else none) =
      some n ↔ n * unit = if negative then -(above : Int) else above := by
  have unit_ne_zero : (unit : Int) ≠ 0 := by omega
  by_cases divides : unit ∣ above
  · obtain ⟨k, rfl⟩ := divides
    rw [if_pos (Nat.mul_mod_right unit k), Nat.mul_div_cancel_left k positive, Option.some.injEq,
      Int.natCast_mul, Int.mul_comm n]
    cases negative with
    | true =>
      simp only [if_true, ← Int.mul_neg]
      rw [Int.mul_eq_mul_left_iff unit_ne_zero, eq_comm]
    | false =>
      simp only [Bool.false_eq_true, if_false]
      rw [Int.mul_eq_mul_left_iff unit_ne_zero, eq_comm]
  · rw [if_neg fun rest => divides (Nat.dvd_of_mod_eq_zero rest)]
    constructor
    · intro h
      cases h
    · intro h
      refine absurd (Int.natCast_dvd_natCast.mp ?_) divides
      have multiple : (unit : Int) ∣ n * unit := Int.dvd_mul_left n unit
      rw [h] at multiple
      cases negative with
      | true => exact Int.dvd_neg.mp multiple
      | false => exact multiple

/-- A number is the integer that it makes when the power of two is multiplied out. -/
theorem toInt?_finite_iff :
    (finite negative mantissa exponent).toInt? = some n ↔
      n * 2 ^ (-exponent).toNat =
        if negative then -(mantissa * 2 ^ exponent.toNat : Int)
        else mantissa * 2 ^ exponent.toNat := by
  simp only [toInt?, scaled_one_neg]
  rw [signed_div_eq_iff (Nat.two_pow_pos _)]
  simp only [Int.natCast_mul, Int.natCast_pow]
  rfl

theorem isFinite_of_toInt? (h : x.toInt? = some n) : x.isFinite = true := by
  cases x with
  | finite => rfl
  | _ => cases h

end Binary64

/-! ## Readers -/

variable {x : Binary64} {n : Int} {c : Complaint}

theorem wholeNumber_eq_ok_iff :
    wholeNumber x = .ok n ↔ x.toInt? = some n ∧ -wordBound < n ∧ n < wordBound := by
  unfold wholeNumber
  cases x.toInt? with
  | none => simp
  | some m =>
    by_cases inside : -wordBound < m ∧ m < wordBound
    · simp only [if_pos inside, Except.ok.injEq, Option.some.injEq]
      constructor
      · rintro rfl
        exact ⟨rfl, inside⟩
      · exact And.left
    · simp only [if_neg inside, Option.some.injEq]
      constructor
      · intro h
        cases h
      · rintro ⟨rfl, inside'⟩
        exact absurd inside' inside

/-- An integer beyond a word, a fraction, or no finite number. -/
theorem wholeNumber_eq_error_iff :
    wholeNumber x = .error c ↔
      (∃ n, x.toInt? = some n ∧ ¬ (-wordBound < n ∧ n < wordBound) ∧ c = .oversizedInteger) ∨
        (x.toInt? = none ∧ x.isFinite = true ∧ c = .fractional) ∨
          (x.isFinite = false ∧ c = .notFinite) := by
  unfold wholeNumber
  cases whole : x.toInt? with
  | none => cases x.isFinite <;> simp [eq_comm]
  | some m =>
    have finite := Binary64.isFinite_of_toInt? whole
    simp only [Option.some.injEq, exists_eq_left', finite, reduceCtorEq, Bool.true_eq_false,
      false_and, or_false]
    by_cases inside : -wordBound < m ∧ m < wordBound
    · rw [if_pos inside]
      simp [inside.1, inside.2]
    · rw [if_neg inside, Except.error.injEq, eq_comm, and_iff_right inside]

theorem readInteger_whole (h : x.toInt? = some n) (low : -wordBound < n) (high : n < wordBound) :
    readInteger (.number x) = readInteger (.int n) :=
  wholeNumber_eq_ok_iff.mpr ⟨h, low, high⟩

/-- The least word is the one integer that a number is told from. -/
theorem readFlag_whole (h : x.toInt? = some n) (differs : n ≠ -wordBound) :
    readFlag (.number x) = readFlag (.int n) := by
  simp only [readFlag]
  cases whole : wholeNumber x with
  | ok m =>
    obtain ⟨hm, low, high⟩ := wholeNumber_eq_ok_iff.mp whole
    obtain rfl : n = m := Option.some.inj (h.symm.trans hm)
    rw [if_pos ((fitsWord_iff n).mpr ⟨Int.le_of_lt low, high⟩)]
  | error c =>
    have outside : ¬ fitsWord n = true := by
      rw [fitsWord_iff]
      rintro ⟨low, high⟩
      have inside := wholeNumber_eq_ok_iff.mpr ⟨h, by omega, high⟩
      rw [whole] at inside
      cases inside
    rw [if_neg outside]

theorem integerFlag_eq_ok_iff {b : Bool} :
    integerFlag n = .ok b ↔ n = if b then 1 else 0 := by
  unfold integerFlag
  split
  · cases b <;> simp
  · cases b <;> simp
  · cases b <;> simp_all

/-- A number is a flag just when it is zero or one. -/
theorem readFlag_number_eq_ok_iff {b : Bool} :
    readFlag (.number x) = .ok b ↔ x.toInt? = some (if b then 1 else 0) := by
  have inside : -wordBound < (if b then 1 else 0) ∧ (if b then 1 else 0) < wordBound := by
    cases b <;> decide
  simp only [readFlag]
  cases whole : wholeNumber x with
  | ok m =>
    obtain ⟨hm, -⟩ := wholeNumber_eq_ok_iff.mp whole
    simp only [hm, integerFlag_eq_ok_iff, Option.some.injEq]
  | error c =>
    constructor
    · intro h
      cases h
    · intro h
      have read := wholeNumber_eq_ok_iff.mpr ⟨h, inside⟩
      rw [whole] at read
      cases read

end AccountPortal

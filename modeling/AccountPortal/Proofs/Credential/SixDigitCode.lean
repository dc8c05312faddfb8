import AccountPortal.Credential.Token
import AccountPortal.Proofs.Digest.BigEndian
import Mathlib.Data.Int.CardIntervalMod

/-!
# Six-digit codes

A code is the decimal text of a number below a million with zeros before it
(`sixDigitCode_eq_zeroPadded`), and no two of these texts are alike (`ofDigitChars_zeroPadded`). So
the draws of four bytes that give a code are the numbers below 2 ^ 32 with its remainder:

    draws (zeroPadded 6 n) = if n < 967296 then 4295 else 4294                (draws_zeroPadded)

as a million goes 4294 times into 2 ^ 32 and leaves 967296.
-/

namespace AccountPortal.Token

/-! ## Decimal digits -/

/-- The decimal text of a number, with zeros before it up to a width. -/
def zeroPadded (width n : Nat) : String := String.ofList ((Nat.toDigits 10 n).leftpad width '0')

theorem ofNat_eq_digitChar {d : Nat} (h : d < 10) : Char.ofNat (48 + d) = d.digitChar := by
  revert d
  decide

/-- The last digit is the remainder by ten. -/
theorem digits_succ (width n : Nat) :
    digits (width + 1) n = digits width (n / 10) ++ [(n % 10).digitChar] := by
  induction width with
  | zero =>
    show [Char.ofNat (48 + n / 10 ^ 0 % 10)] = _
    rw [pow_zero, Nat.div_one, ofNat_eq_digitChar (Nat.mod_lt n (by decide))]
    rfl
  | succ width ih =>
    have high : n / 10 ^ (width + 1) = n / 10 / 10 ^ width := by
      rw [Nat.div_div_eq_div_mul, pow_succ']
    show Char.ofNat _ :: digits (width + 1) n = Char.ofNat _ :: (digits width (n / 10) ++ _)
    rw [ih, high]

theorem digits_eq_leftpad {width n : Nat} (h : n < 10 ^ (width + 1)) :
    digits (width + 1) n = (Nat.toDigits 10 n).leftpad (width + 1) '0' := by
  induction width generalizing n with
  | zero =>
    have small : n < 10 := h
    rw [digits_succ, Nat.mod_eq_of_lt small, Nat.toDigits_of_lt_base small]
    rfl
  | succ width ih =>
    have quotient : n / 10 < 10 ^ (width + 1) := by
      rw [pow_succ] at h
      omega
    rw [digits_succ, ih quotient]
    by_cases small : n < 10
    · -- nothing is left but a zero, which is one of the padding
      rw [Nat.div_eq_of_lt small, Nat.mod_eq_of_lt small, Nat.toDigits_of_lt_base small,
        Nat.toDigits_zero]
      simp [List.leftpad, List.replicate_succ']
    · rw [Nat.toDigits_of_base_le (by decide) (Nat.le_of_not_lt small)]
      simp [List.leftpad]

/-! ## Padded texts -/

theorem toList_zeroPadded (width n : Nat) :
    (zeroPadded width n).toList =
      List.replicate (width - (Nat.toDigits 10 n).length) '0' ++ Nat.toDigits 10 n :=
  String.toList_ofList

theorem length_zeroPadded {width n : Nat} (h : n < 10 ^ (width + 1)) :
    (zeroPadded (width + 1) n).length = width + 1 := by
  have fits := (Nat.length_toDigits_le_iff (by decide) (Nat.succ_pos width)).mpr h
  rw [zeroPadded, String.length_ofList, List.length_leftpad, max_eq_left fits]

theorem isDigit_of_mem_zeroPadded {width n : Nat} {c : Char}
    (h : c ∈ (zeroPadded width n).toList) : c.isDigit = true := by
  rw [toList_zeroPadded, List.mem_append] at h
  rcases h with zero | digit
  · rw [List.eq_of_mem_replicate zero]
    decide
  · exact Nat.isDigit_of_mem_toDigits (by decide) (by decide) digit

/-- The padding does not change the value. -/
theorem ofDigitChars_zeroPadded (width n : Nat) :
    Nat.ofDigitChars 10 (zeroPadded width n).toList 0 = n := by
  rw [toList_zeroPadded, Nat.ofDigitChars_append, Nat.ofDigitChars_replicate_zero, Nat.mul_zero,
    Nat.ofDigitChars_ten_toDigits]

theorem zeroPadded_injective (width : Nat) : Function.Injective (zeroPadded width) := by
  intro m n same
  rw [← ofDigitChars_zeroPadded width m, same, ofDigitChars_zeroPadded]

/-! ## Codes -/

theorem sixDigitCode_eq_zeroPadded (entropy : Bytes) :
    sixDigitCode entropy = zeroPadded 6 (entropy.bigNat % 1000000) := by
  have small : entropy.bigNat % 1000000 < 10 ^ 6 := Nat.mod_lt _ (by decide)
  rw [sixDigitCode, digits_eq_leftpad small, zeroPadded]

theorem sixDigitCode_eq_iff {entropy : Bytes} {n : Nat} (h : n < 1000000) :
    sixDigitCode entropy = zeroPadded 6 n ↔ entropy.bigNat ≡ n [MOD 1000000] := by
  rw [sixDigitCode_eq_zeroPadded, (zeroPadded_injective 6).eq_iff, Nat.ModEq, Nat.mod_eq_of_lt h]

/-- How many draws of four bytes give a code. -/
noncomputable def draws (code : String) : Nat :=
  Nat.card {entropy : Bytes // entropy.length = 4 ∧ sixDigitCode entropy = code}

theorem draws_eq_count {n : Nat} (h : n < 1000000) :
    draws (zeroPadded 6 n) = Nat.count (· ≡ n [MOD 1000000]) (256 ^ 4) := by
  rw [← Bytes.card_bigNat]
  exact Nat.card_congr (Equiv.subtypeEquivRight fun _ => and_congr_right' (sixDigitCode_eq_iff h))

theorem draws_zeroPadded {n : Nat} (h : n < 1000000) :
    draws (zeroPadded 6 n) = if n < 967296 then 4295 else 4294 := by
  rw [draws_eq_count h, Nat.count_modEq_card _ (by decide), Nat.mod_eq_of_lt h]
  norm_num
  split <;> rfl

/-- A code is six decimal digits, and their value is that of the bytes reduced below a million. Each
number below a million is drawn, the first 967296 of them by one draw of four bytes more than the
others, which is less than one part in four thousand. -/
theorem codes_are_complete_and_nearly_uniform :
    (∀ entropy : Bytes, (sixDigitCode entropy).length = 6 ∧
      (∀ c ∈ (sixDigitCode entropy).toList, c.isDigit = true) ∧
      Nat.ofDigitChars 10 (sixDigitCode entropy).toList 0 =
        Nat.ofDigits 256 (entropy.reverse.map UInt8.toNat) % 1000000) ∧
    (∀ n < 1000000, draws (zeroPadded 6 n) = if n < 967296 then 4295 else 4294) ∧
    (∀ n < 1000000, 0 < draws (zeroPadded 6 n)) ∧
    ∀ m < 1000000, ∀ n < 1000000,
      4000 * draws (zeroPadded 6 m) < 4001 * draws (zeroPadded 6 n) := by
  refine ⟨?_, fun n h => draws_zeroPadded h, ?_, ?_⟩
  · intro entropy
    have small : entropy.bigNat % 1000000 < 10 ^ 6 := Nat.mod_lt _ (by decide)
    rw [sixDigitCode_eq_zeroPadded, ← Bytes.bigNat_eq_ofDigits]
    exact ⟨length_zeroPadded small, fun _ => isDigit_of_mem_zeroPadded, ofDigitChars_zeroPadded 6 _⟩
  · intro n h
    rw [draws_zeroPadded h]
    split <;> decide
  · intro m hm n hn
    rw [draws_zeroPadded hm, draws_zeroPadded hn]
    split <;> split <;> decide

/-- Seven more than a million is drawn as seven, which is among the likelier codes. -/
theorem code_of_seven :
    sixDigitCode [0x00, 0x0F, 0x42, 0x47] = "000007" ∧
      Nat.ofDigitChars 10 "000007".toList 0 = 1000007 % 1000000 ∧
      draws "000007" = 4295 ∧ draws "999999" = 4294 ∧
      4000 * draws "000007" < 4001 * draws "999999" := by
  obtain ⟨read, count, -, even⟩ := codes_are_complete_and_nearly_uniform
  have seven : zeroPadded 6 7 = "000007" := by decide
  have last : zeroPadded 6 999999 = "999999" := by decide
  have code : sixDigitCode [0x00, 0x0F, 0x42, 0x47] = "000007" := by decide
  obtain ⟨-, -, value⟩ := read [0x00, 0x0F, 0x42, 0x47]
  rw [code] at value
  rw [← seven, ← last]
  exact ⟨code.trans seven.symm, seven.symm ▸ value, count 7 (by decide), count 999999 (by decide),
    even 7 (by decide) 999999 (by decide)⟩

end AccountPortal.Token

import AccountPortal.Text.Base64Url
import Mathlib.Tactic.Ring

/-!
# Sextets and bytes

A list of numbers below 64 is a list of bits, six for each; the bytes in it are the same bits cut
into eights, and what is left at the end makes no byte:

    xs.flatMap (bits 6) = bs.flatMap (fun b => bits 8 b.toNat) ++ spare xs     where bs = bytes xs
                                                                               (flatMap_bits_bytes)
    bs.length = 3 * xs.length / 4                                              (length_bytes)

Encoding the bytes gives the sextets back exactly when nothing is left that is not zero
(`encodeChars_bytes`): the encoder fills up the last letter with zeros.
-/

namespace AccountPortal.Base64Url

/-! ## Bits -/

/-- The lowest `w` bits, the highest of them first. -/
def bits : Nat → Nat → List Bool
  | 0, _ => []
  | w + 1, n => bits w (n / 2) ++ [n % 2 == 1]

@[simp] theorem length_bits (w n : Nat) : (bits w n).length = w := by
  induction w generalizing n with
  | zero => rfl
  | succ w ih => simp [bits, ih]

/-- The number `x * 2 ^ w + y` is written as `x` and then, in `w` bits, as `y`. -/
theorem bits_append (v w x : Nat) {y : Nat} (h : y < 2 ^ w) :
    bits (v + w) (x * 2 ^ w + y) = bits v x ++ bits w y := by
  induction w generalizing y with
  | zero =>
    have : y = 0 := by simpa using h
    simp [bits, this]
  | succ w ih =>
    have hpow : x * 2 ^ (w + 1) = 2 * (x * 2 ^ w) := by ring
    have high : (x * 2 ^ (w + 1) + y) / 2 = x * 2 ^ w + y / 2 := by omega
    have low : (x * 2 ^ (w + 1) + y) % 2 = y % 2 := by omega
    have hy : y / 2 < 2 ^ w := by rw [pow_succ] at h; omega
    rw [← Nat.add_assoc, bits, bits, high, low, ih hy, List.append_assoc]

/-- Bits cut after the first `v`. -/
theorem bits_div_mod (v w n : Nat) : bits (v + w) n = bits v (n / 2 ^ w) ++ bits w (n % 2 ^ w) := by
  rw [← bits_append v w _ (Nat.mod_lt n (Nat.two_pow_pos w)), Nat.div_add_mod']

theorem bits_eq_zeros {w n : Nat} (h : n < 2 ^ w) : (∀ b ∈ bits w n, b = false) ↔ n = 0 := by
  induction w generalizing n with
  | zero => simpa [bits] using h
  | succ w ih =>
    have hn : n / 2 < 2 ^ w := by rw [pow_succ] at h; omega
    have step : (∀ b ∈ bits (w + 1) n, b = false) ↔ n / 2 = 0 ∧ n % 2 = 0 := by
      simp only [bits, List.mem_append, List.mem_singleton, or_imp, forall_and, forall_eq, ih hn,
        beq_eq_false_iff_ne, ne_eq, Nat.mod_two_not_eq_one]
    rw [step]
    omega

/-! ## Bytes in a list of sextets -/

/-- The whole bytes in a list of sextets: three in four of them. -/
def bytes : List Nat → Bytes
  | [] => []
  | [_] => []
  | [a, b] => [(a * 4 + b / 16).toUInt8]
  | [a, b, c] => [(a * 4 + b / 16).toUInt8, (b % 16 * 16 + c / 4).toUInt8]
  | a :: b :: c :: d :: rest =>
    (a * 4 + b / 16).toUInt8 :: (b % 16 * 16 + c / 4).toUInt8 :: (c % 4 * 64 + d).toUInt8
      :: bytes rest

/-- The bits after the last whole byte. -/
def spare : List Nat → List Bool
  | [] => []
  | [a] => bits 6 a
  | [_, b] => bits 4 (b % 16)
  | [_, _, c] => bits 2 (c % 4)
  | _ :: _ :: _ :: _ :: rest => spare rest

theorem length_bytes (xs : List Nat) : (bytes xs).length = 3 * xs.length / 4 := by
  induction xs using bytes.induct with
  | case1 | case2 | case3 | case4 => simp [bytes]
  | case5 a b c d rest ih =>
    simp only [bytes, List.length_cons, ih]
    omega

theorem length_spare (xs : List Nat) : (spare xs).length = 6 * xs.length % 8 := by
  induction xs using bytes.induct with
  | case1 | case2 | case3 | case4 => simp [spare]
  | case5 a b c d rest ih =>
    simp only [spare, List.length_cons, ih]
    omega

/-! ### Three bytes out of four sextets, and back -/

section Group

variable {a b c d : Nat}

theorem toNat_first (ha : a < 64) (hb : b < 64) :
    (a * 4 + b / 16).toUInt8.toNat = a * 4 + b / 16 :=
  Nat.mod_eq_of_lt (show _ < 256 by omega)

theorem toNat_second (hc : c < 64) :
    (b % 16 * 16 + c / 4).toUInt8.toNat = b % 16 * 16 + c / 4 :=
  Nat.mod_eq_of_lt (show _ < 256 by omega)

theorem toNat_third (hd : d < 64) : (c % 4 * 64 + d).toUInt8.toNat = c % 4 * 64 + d :=
  Nat.mod_eq_of_lt (show _ < 256 by omega)

theorem bits_first (ha : a < 64) (hb : b < 64) :
    bits 8 (a * 4 + b / 16).toUInt8.toNat = bits 6 a ++ bits 2 (b / 16) := by
  rw [toNat_first ha hb]
  exact bits_append 6 2 a (by omega)

theorem bits_second (hc : c < 64) :
    bits 8 (b % 16 * 16 + c / 4).toUInt8.toNat = bits 4 (b % 16) ++ bits 4 (c / 4) := by
  rw [toNat_second hc]
  exact bits_append 4 4 (b % 16) (by omega)

theorem bits_third (hd : d < 64) :
    bits 8 (c % 4 * 64 + d).toUInt8.toNat = bits 2 (c % 4) ++ bits 6 d := by
  rw [toNat_third hd]
  exact bits_append 2 6 (c % 4) (by omega)

theorem first_sextet (hb : b < 64) : (a * 4 + b / 16) / 4 = a := by
  omega

theorem second_sextet (hb : b < 64) (hc : c < 64) :
    (a * 4 + b / 16) % 4 * 16 + (b % 16 * 16 + c / 4) / 16 = b := by
  omega

theorem third_sextet (hc : c < 64) (hd : d < 64) :
    (b % 16 * 16 + c / 4) % 16 * 4 + (c % 4 * 64 + d) / 64 = c := by
  omega

theorem fourth_sextet (hd : d < 64) : (c % 4 * 64 + d) % 64 = d := by
  omega

end Group

/-- The bits of sextets are the bits of their bytes, and then the spare ones. -/
theorem flatMap_bits_bytes {xs : List Nat} (hxs : ∀ x ∈ xs, x < 64) :
    xs.flatMap (bits 6) = ((bytes xs).flatMap fun b => bits 8 b.toNat) ++ spare xs := by
  have cut₂ (b : Nat) : bits 6 b = bits 2 (b / 16) ++ bits 4 (b % 16) := bits_div_mod 2 4 b
  have cut₃ (c : Nat) : bits 6 c = bits 4 (c / 4) ++ bits 2 (c % 4) := bits_div_mod 4 2 c
  induction xs using bytes.induct with
  | case1 => rfl
  | case2 a =>
    simp only [bytes, spare, List.flatMap_cons, List.flatMap_nil, List.append_nil,
      List.nil_append]
  | case3 a b =>
    simp only [List.forall_mem_cons] at hxs
    obtain ⟨ha, hb, -⟩ := hxs
    simp only [bytes, spare, List.flatMap_cons, List.flatMap_nil, bits_first ha hb, cut₂ b,
      List.append_assoc, List.append_nil]
  | case4 a b c =>
    simp only [List.forall_mem_cons] at hxs
    obtain ⟨ha, hb, hc, -⟩ := hxs
    simp only [bytes, spare, List.flatMap_cons, List.flatMap_nil, bits_first ha hb,
      bits_second hc, cut₂ b, cut₃ c, List.append_assoc, List.append_nil]
  | case5 a b c d rest ih =>
    simp only [List.forall_mem_cons] at hxs
    obtain ⟨ha, hb, hc, hd, hrest⟩ := hxs
    simp only [bytes, spare, List.flatMap_cons, bits_first ha hb, bits_second hc, bits_third hd,
      cut₂ b, cut₃ c, ih hrest, List.append_assoc]

/-! ## Encoding the bytes -/

theorem sextet?_letter : ∀ n < 64, sextet? (letter n) = some n := by
  decide

theorem letter_eq_letter_iff {m n : Nat} (hm : m < 64) (hn : n < 64) :
    letter m = letter n ↔ m = n := by
  refine ⟨fun h => ?_, congrArg letter⟩
  have : some m = some n := by rw [← sextet?_letter m hm, h, sextet?_letter n hn]
  exact Option.some.inj this

/-- The letters come back when the bits that the encoder fills up with zeros were zero. -/
theorem encodeChars_bytes {xs : List Nat} (hxs : ∀ x ∈ xs, x < 64) (whole : xs.length % 4 ≠ 1) :
    encodeChars (bytes xs) = xs.map letter ↔ ∀ b ∈ spare xs, b = false := by
  induction xs using bytes.induct with
  | case1 => simp [bytes, spare, encodeChars]
  | case2 a => simp at whole
  | case3 a b =>
    simp only [List.forall_mem_cons] at hxs
    obtain ⟨ha, hb, -⟩ := hxs
    have last : letter ((a * 4 + b / 16) % 4 * 16) = letter b ↔ b % 16 = 0 := by
      rw [letter_eq_letter_iff (by omega) hb]
      omega
    simp only [bytes, encodeChars, spare, toNat_first ha hb, first_sextet hb, List.map_cons,
      List.map_nil, List.cons.injEq, true_and, and_true, last,
      bits_eq_zeros (show b % 16 < 2 ^ 4 by omega)]
  | case4 a b c =>
    simp only [List.forall_mem_cons] at hxs
    obtain ⟨ha, hb, hc, -⟩ := hxs
    have last : letter ((b % 16 * 16 + c / 4) % 16 * 4) = letter c ↔ c % 4 = 0 := by
      rw [letter_eq_letter_iff (by omega) hc]
      omega
    simp only [bytes, encodeChars, spare, toNat_first ha hb, toNat_second hc, first_sextet hb,
      second_sextet hb hc, List.map_cons, List.map_nil, List.cons.injEq, true_and, and_true, last,
      bits_eq_zeros (show c % 4 < 2 ^ 2 by omega)]
  | case5 a b c d rest ih =>
    simp only [List.forall_mem_cons] at hxs
    obtain ⟨ha, hb, hc, hd, hrest⟩ := hxs
    have hwhole : rest.length % 4 ≠ 1 := by
      simp only [List.length_cons] at whole
      omega
    simp only [bytes, encodeChars, spare, toNat_first ha hb, toNat_second hc, toNat_third hd,
      first_sextet hb, second_sextet hb hc, third_sextet hc hd, fourth_sextet hd, List.map_cons,
      List.cons.injEq, true_and, ih hrest hwhole]

end AccountPortal.Base64Url

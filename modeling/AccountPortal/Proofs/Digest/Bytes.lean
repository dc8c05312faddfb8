import AccountPortal.Digest.Bytes

/-!
# Bytes compared and written

The comparison that looks at every byte tells whether two byte strings are one, and hexadecimal, two
digits a byte, is read back:

    same a b = true ↔ a = b                                                   (same_eq_true_iff)
    (∀ c ∈ xor a b, c = 0) ↔ a <+: b ∨ b <+: a                        (xor_eq_zero_iff_isPrefix)
    ofHexChars? (hexChars bs) = some bs                                    (ofHexChars?_hexChars)
-/

namespace AccountPortal.Bytes

/-! ## Comparison -/

theorem foldl_or_eq_zero_iff (bs : Bytes) (seen : UInt8) :
    bs.foldl (· ||| ·) seen = 0 ↔ seen = 0 ∧ ∀ b ∈ bs, b = 0 := by
  induction bs generalizing seen with
  | nil => simp
  | cons b rest ih =>
    rw [List.foldl_cons, ih, UInt8.or_eq_zero_iff, List.forall_mem_cons, and_assoc]

/-- The pairs end with the shorter of two byte strings, so that none differs in a bit just when one
of the two begins with the other. -/
theorem xor_eq_zero_iff_isPrefix {a b : Bytes} :
    (∀ c ∈ xor a b, c = 0) ↔ a <+: b ∨ b <+: a := by
  induction a generalizing b with
  | nil => simp [xor]
  | cons x rest ih =>
    cases b with
    | nil => simp [xor]
    | cons y more =>
      show (∀ c ∈ (x ^^^ y) :: xor rest more, c = 0) ↔ _
      rw [List.forall_mem_cons, UInt8.xor_eq_zero_iff, ih, List.cons_prefix_cons,
        List.cons_prefix_cons, eq_comm (a := y), and_or_left]

/-- Bytes of one length differ in no bit just when they are the same bytes. -/
theorem xor_eq_zero_iff {a b : Bytes} (h : a.length = b.length) :
    (∀ c ∈ xor a b, c = 0) ↔ a = b := by
  rw [xor_eq_zero_iff_isPrefix]
  constructor
  · rintro (first | first)
    · exact first.eq_of_length h
    · exact (first.eq_of_length h.symm).symm
  · rintro rfl
    exact Or.inl List.prefix_rfl

theorem same_eq_true_iff {a b : Bytes} : same a b = true ↔ a = b := by
  unfold same
  rw [Bool.and_eq_true, beq_iff_eq, beq_iff_eq, foldl_or_eq_zero_iff]
  constructor
  · rintro ⟨length, -, zeros⟩
    exact (xor_eq_zero_iff length).mp zeros
  · rintro rfl
    exact ⟨rfl, rfl, (xor_eq_zero_iff rfl).mpr rfl⟩

/-! ## Hexadecimal -/

theorem hexValue?_hexDigit {n : Nat} (h : n < 16) : hexValue? (hexDigit n) = some n := by
  revert n
  decide

theorem mem_hexChars {bs : Bytes} {c : Char} (h : c ∈ hexChars bs) : ∃ n < 16, c = hexDigit n := by
  induction bs with
  | nil => simp [hexChars] at h
  | cons b rest ih =>
    have small := b.toNat_lt
    rw [hexChars, List.mem_cons, List.mem_cons] at h
    rcases h with rfl | rfl | h
    · exact ⟨b.toNat / 16, by omega, rfl⟩
    · exact ⟨b.toNat % 16, by omega, rfl⟩
    · exact ih h

theorem ofHexChars?_hexChars (bs : Bytes) : ofHexChars? (hexChars bs) = some bs := by
  induction bs with
  | nil => rfl
  | cons b rest ih =>
    have small := b.toNat_lt
    have high := hexValue?_hexDigit (show b.toNat / 16 < 16 by omega)
    have low := hexValue?_hexDigit (show b.toNat % 16 < 16 by omega)
    have whole : 16 * (b.toNat / 16) + b.toNat % 16 = b.toNat := by omega
    simp only [hexChars, ofHexChars?, high, low, ih, whole, Option.map_some]
    rw [Nat.toUInt8_eq, UInt8.ofNat_toNat]

/-- Two byte strings are not written alike. -/
theorem hex_injective : Function.Injective hex := by
  intro a b h
  have chars : hexChars a = hexChars b := String.ofList_injective h
  have read := ofHexChars?_hexChars a
  rw [chars, ofHexChars?_hexChars] at read
  exact (Option.some.inj read).symm

theorem hex_ne_empty {bs : Bytes} (h : bs ≠ []) : bs.hex ≠ "" := by
  intro none
  refine h (hex_injective ?_)
  rw [none]
  rfl

end AccountPortal.Bytes

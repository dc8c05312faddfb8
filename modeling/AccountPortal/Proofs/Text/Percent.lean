import AccountPortal.Text.Percent
import AccountPortal.Proofs.Text.Utf8
import AccountPortal.Text.Blank

/-!
# Percent encoding is read back

Encoded text is made of unreserved characters and of bytes written as a percent sign and two
upper-case digits (`Escaped`). Decoding finds the bytes again and with them the text:

    Escaped (percentEncodeChars cs)                                   (escaped_percentEncodeChars)
    percentDecodeChars (percentEncodeChars cs) = cs          (percentDecodeChars_percentEncodeChars)

Text of unreserved characters alone is encoded as itself (`percentEncodeChars_eq_self`).
-/

namespace AccountPortal

/-! ## Unreserved characters -/

theorem toNat_lt_of_isUnreserved {c : Char} (h : isUnreserved c = true) : c.toNat < 0x80 := by
  have bound (a : Char) (ha : c ≤ a) (small : a.toNat < 0x80) : c.toNat < 0x80 :=
    Nat.lt_of_le_of_lt (show c.toNat ≤ a.toNat from ha) small
  simp only [isUnreserved, Bool.or_eq_true, Bool.and_eq_true, decide_eq_true_eq, beq_iff_eq] at h
  rcases h with (((((⟨-, h⟩ | ⟨-, h⟩) | ⟨-, h⟩) | rfl) | rfl) | rfl) | rfl
  · exact bound 'Z' h (by decide)
  · exact bound 'z' h (by decide)
  · exact bound '9' h (by decide)
  · decide
  · decide
  · decide
  · decide

/-- A fact about every ASCII character is checked one by one. -/
theorem forall_ascii {P : Char → Prop} (h : ∀ n < 0x80, P (Char.ofNat n)) {c : Char}
    (hc : c.toNat < 0x80) : P c := by
  have := h c.toNat hc
  rwa [Char.ofNat_toNat] at this

theorem solid_of_isUnreserved {c : Char} (h : isUnreserved c = true) :
    c ≠ '%' ∧ c ≠ ';' ∧ c ≠ '=' ∧ isBlank c = false := by
  have checked : ∀ n < 0x80, isUnreserved (Char.ofNat n) = true → Char.ofNat n ≠ '%' ∧
      Char.ofNat n ≠ ';' ∧ Char.ofNat n ≠ '=' ∧ isBlank (Char.ofNat n) = false := by
    decide
  exact forall_ascii (P := fun c => isUnreserved c = true → c ≠ '%' ∧ c ≠ ';' ∧ c ≠ '=' ∧
    isBlank c = false) checked (toNat_lt_of_isUnreserved h) h

theorem utf8EncodeChar_ascii {c : Char} (h : c.toNat < 0x80) :
    String.utf8EncodeChar c = [UInt8.ofNat c.toNat] := by
  have one : c.val.toNat ≤ 0x7F := Nat.le_of_lt_succ h
  unfold String.utf8EncodeChar
  dsimp only
  rw [if_pos one]
  rfl

theorem percentByte_unreserved {c : Char} (h : isUnreserved c = true) :
    percentByte (UInt8.ofNat c.toNat) = [c] := by
  have small := toNat_lt_of_isUnreserved h
  have back : Char.ofNat (UInt8.ofNat c.toNat).toNat = c := by
    rw [Utf8.toNat_ofNat (by omega), Char.ofNat_toNat]
  simp only [percentByte, back, h, if_true]

/-- Text of unreserved characters is left as it is. -/
theorem percentEncodeChars_eq_self {cs : List Char} (h : ∀ c ∈ cs, isUnreserved c = true) :
    percentEncodeChars cs = cs := by
  unfold percentEncodeChars utf8Chars
  induction cs with
  | nil => rfl
  | cons c rest ih =>
    obtain ⟨hc, hrest⟩ := List.forall_mem_cons.1 h
    rw [List.flatMap_cons, List.flatMap_append, ih hrest,
      utf8EncodeChar_ascii (toNat_lt_of_isUnreserved hc), List.flatMap_singleton,
      percentByte_unreserved hc, List.singleton_append]

/-! ## Escaped text -/

def IsUpperHexDigit (c : Char) : Prop := '0' ≤ c ∧ c ≤ '9' ∨ 'A' ≤ c ∧ c ≤ 'F'

instance (c : Char) : Decidable (IsUpperHexDigit c) := inferInstanceAs (Decidable (_ ∨ _))

/-- Unreserved characters, and bytes as a percent sign and two digits. -/
inductive Escaped : List Char → Prop where
  | nil : Escaped []
  | plain {c : Char} {rest : List Char} (hc : isUnreserved c = true) (h : Escaped rest) :
      Escaped (c :: rest)
  | byte {high low : Char} {rest : List Char} (hhigh : IsUpperHexDigit high)
      (hlow : IsUpperHexDigit low) (h : Escaped rest) : Escaped ('%' :: high :: low :: rest)

theorem isUpperHexDigit_upperHexDigit : ∀ n < 16, IsUpperHexDigit (upperHexDigit n) := by
  decide

theorem isUnreserved_of_isUpperHexDigit {c : Char} (h : IsUpperHexDigit c) :
    isUnreserved c = true := by
  have letter : c ≤ 'F' → c ≤ 'Z' := fun hF => Char.le_trans hF (by decide)
  simp only [isUnreserved, Bool.or_eq_true, Bool.and_eq_true, decide_eq_true_eq]
  rcases h with ⟨h₀, h₉⟩ | ⟨hA, hF⟩
  · simp only [h₀, h₉, and_self, or_true, true_or]
  · simp only [hA, letter hF, and_self, true_or]

theorem Escaped.append {cs ds : List Char} (h : Escaped cs) (h' : Escaped ds) :
    Escaped (cs ++ ds) := by
  induction h with
  | nil => exact h'
  | plain hc _ ih => exact .plain hc ih
  | byte hhigh hlow _ ih => exact .byte hhigh hlow ih

/-- Nothing that separates cookies or is trimmed stands in escaped text. -/
theorem Escaped.solid {cs : List Char} (h : Escaped cs) :
    ∀ c ∈ cs, c ≠ ';' ∧ c ≠ '=' ∧ isBlank c = false := by
  induction h with
  | nil =>
    intro c hc
    cases hc
  | plain hc _ ih => exact List.forall_mem_cons.2 ⟨(solid_of_isUnreserved hc).2, ih⟩
  | byte hhigh hlow _ ih =>
    refine List.forall_mem_cons.2 ⟨by decide, List.forall_mem_cons.2 ⟨?_,
      List.forall_mem_cons.2 ⟨?_, ih⟩⟩⟩
    · exact (solid_of_isUnreserved (isUnreserved_of_isUpperHexDigit hhigh)).2
    · exact (solid_of_isUnreserved (isUnreserved_of_isUpperHexDigit hlow)).2

theorem escaped_percentByte (b : UInt8) : Escaped (percentByte b) := by
  have small := b.toNat_lt
  unfold percentByte
  dsimp only
  split
  · next h => exact .plain h .nil
  · exact .byte (isUpperHexDigit_upperHexDigit _ (by omega))
      (isUpperHexDigit_upperHexDigit _ (by omega)) .nil

theorem escaped_percentEncodeChars (cs : List Char) : Escaped (percentEncodeChars cs) := by
  unfold percentEncodeChars
  induction utf8Chars cs with
  | nil => exact .nil
  | cons b rest ih =>
    rw [List.flatMap_cons]
    exact (escaped_percentByte b).append ih

/-! ## Reading back -/

theorem hexValue?_upperHexDigit : ∀ n < 16, Bytes.hexValue? (upperHexDigit n) = some n := by
  decide

theorem percentBytes_cons {c : Char} (h : c ≠ '%') (rest : List Char) :
    percentBytes (c :: rest) = String.utf8EncodeChar c ++ percentBytes rest := by
  rw [percentBytes.eq_def]
  split
  · next heq => cases heq
  · next heq =>
    cases heq
    exact absurd rfl h
  · next heq =>
    cases heq
    rfl

theorem toNat_charOfNat {n : Nat} (h : n < 256) : (Char.ofNat n).toNat = n := by
  have valid : n.isValidChar := Or.inl (Nat.lt_trans h (by decide))
  rw [Char.ofNat, dif_pos valid]
  rfl

/-- A byte is found again, whether it stands for itself or is written as two digits. -/
theorem percentBytes_percentByte (b : UInt8) (rest : List Char) :
    percentBytes (percentByte b ++ rest) = b :: percentBytes rest := by
  have small := b.toNat_lt
  unfold percentByte
  dsimp only
  split
  · next h =>
    have ascii := toNat_lt_of_isUnreserved h
    have code : (Char.ofNat b.toNat).toNat = b.toNat := toNat_charOfNat small
    rw [List.singleton_append, percentBytes_cons (solid_of_isUnreserved h).1,
      utf8EncodeChar_ascii ascii, code, UInt8.ofNat_toNat, List.singleton_append]
  · have whole : 16 * (b.toNat / 16) + b.toNat % 16 = b.toNat := by omega
    have byte : (b.toNat).toUInt8 = b := UInt8.ofNat_toNat
    simp only [List.cons_append, List.nil_append, percentBytes,
      hexValue?_upperHexDigit _ (show b.toNat / 16 < 16 by omega),
      hexValue?_upperHexDigit _ (show b.toNat % 16 < 16 by omega), whole, byte]

theorem percentBytes_percentEncodeChars (cs : List Char) :
    percentBytes (percentEncodeChars cs) = utf8Chars cs := by
  unfold percentEncodeChars
  induction utf8Chars cs with
  | nil => rfl
  | cons b rest ih => rw [List.flatMap_cons, percentBytes_percentByte, ih]

theorem percentDecodeChars_percentEncodeChars (cs : List Char) :
    percentDecodeChars (percentEncodeChars cs) = cs := by
  rw [percentDecodeChars, percentBytes_percentEncodeChars, Utf8.decodeLossy_utf8Chars]

/-! ## Text without percent signs -/

theorem percentBytes_eq_utf8Chars {cs : List Char} (h : '%' ∉ cs) :
    percentBytes cs = utf8Chars cs := by
  induction cs with
  | nil => rfl
  | cons c rest ih =>
    rw [List.mem_cons, not_or] at h
    rw [percentBytes_cons (Ne.symm h.1), ih h.2]
    rfl

theorem percentDecodeChars_eq_self {cs : List Char} (h : '%' ∉ cs) :
    percentDecodeChars cs = cs := by
  rw [percentDecodeChars, percentBytes_eq_utf8Chars h, Utf8.decodeLossy_utf8Chars]

end AccountPortal

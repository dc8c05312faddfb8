import AccountPortal.Credential.Password
import AccountPortal.Proofs.Digest.Bytes
import AccountPortal.Proofs.Text.Utf8

/-!
# Texts are compared

Two texts pass just when they are one, since no two have the same bytes:

    sameText a b = true ↔ a = b                                            (sameText_eq_true_iff)

The loop over the bytes ends with the shorter text. It finds a difference unless one text begins with
the other, whatever their characters are (`differences_eq_zero_iff`), and texts of one length in bytes
do so only when they are the same.
-/

namespace AccountPortal

/-- Texts are compared by their bytes, and no two have the same ones. -/
theorem sameText_eq_true_iff {a b : String} : sameText a b = true ↔ a = b := by
  rw [sameText, Bytes.same_eq_true_iff]
  exact Utf8.utf8_injective.eq_iff

/-- What the loop gathers from the bytes of two texts. -/
theorem differences_eq_zero_iff (a b : String) :
    ((utf8 a).xor (utf8 b)).foldl (· ||| ·) 0 = 0 ↔
      a.toList <+: b.toList ∨ b.toList <+: a.toList := by
  rw [Bytes.foldl_or_eq_zero_iff, eq_self, true_and, Bytes.xor_eq_zero_iff_isPrefix]
  exact or_congr Utf8.utf8Chars_isPrefix_iff Utf8.utf8Chars_isPrefix_iff

/-- The comparison passes two texts just when they are one. The lengths in bytes are needed for that:
the loop by itself passes two texts just when one of them begins with the other. -/
theorem comparison_decides_equality (a b : String) :
    (sameText a b = true ↔ a = b) ∧
    (((utf8 a).xor (utf8 b)).foldl (· ||| ·) 0 = 0 ↔
      a.toList <+: b.toList ∨ b.toList <+: a.toList) :=
  ⟨sameText_eq_true_iff, differences_eq_zero_iff a b⟩

/-- Two characters and one, of as many bytes. -/
example : sameText "ab" "é" = false ∧ (utf8 "ab").length = (utf8 "é").length := by decide

end AccountPortal

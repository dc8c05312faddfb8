import AccountPortal.Text.Utf8
import Mathlib.Tactic.IntervalCases

/-!
# UTF-8 is read back

The decoder reads every character of encoded text as itself, whatever comes after it:

    decodeFrom .start (String.utf8EncodeChar c ++ rest) = c :: decodeFrom .start rest
                                                                     (decodeFrom_utf8EncodeChar)
    decodeLossy (utf8Chars cs) = cs                                  (decodeLossy_utf8Chars)

so that no two texts have the same bytes (`utf8_injective`), and that the bytes of one text begin with
those of another only when the text does (`utf8Chars_isPrefix_iff`).

The first byte of a character sets the bounds of the second, and no scalar value steps over them:
the bounds after 0xE0 and 0xF0 leave out what is encoded shorter, those after 0xED the surrogates,
those after 0xF4 what lies beyond the last code point.
-/

namespace AccountPortal.Utf8

section Bytes

variable {b : UInt8} {code owed low high : Nat} {s : State} (rest : Bytes)

theorem decodeFrom_whole {c : Char} (h : first b.toNat = ([c], .start)) :
    decodeFrom .start (b :: rest) = c :: decodeFrom .start rest := by
  simp only [decodeFrom, step, h, List.singleton_append]

theorem decodeFrom_lead (h : first b.toNat = ([], s)) :
    decodeFrom .start (b :: rest) = decodeFrom s rest := by
  simp only [decodeFrom, step, h, List.nil_append]

section Tail

variable (hlow : low ≤ b.toNat) (hhigh : b.toNat ≤ high)
include hlow hhigh

theorem decodeFrom_last :
    decodeFrom (.inside code 1 low high) (b :: rest)
      = Char.ofNat (64 * code + (b.toNat - 0x80)) :: decodeFrom .start rest := by
  simp only [decodeFrom, step, hlow, hhigh, decide_true, Bool.and_self, if_true, le_refl,
    List.singleton_append]

theorem decodeFrom_more :
    decodeFrom (.inside code (owed + 2) low high) (b :: rest)
      = decodeFrom (.inside (64 * code + (b.toNat - 0x80)) (owed + 1) 0x80 0xBF) rest := by
  have more : ¬ owed + 2 ≤ 1 := by omega
  simp only [decodeFrom, step, hlow, hhigh, decide_true, Bool.and_self, if_true, more, if_false,
    List.nil_append]
  rfl

end Tail

end Bytes

/-! ## First bytes -/

theorem first_one {n : Nat} (h : n < 0x80) : first n = ([Char.ofNat n], .start) := by
  simp only [first, h, if_true]

theorem first_two {n : Nat} (h : 0xC2 ≤ n) (h' : n ≤ 0xDF) :
    first n = ([], .inside (n - 0xC0) 1 0x80 0xBF) := by
  have long : ¬ n < 0x80 := by omega
  simp only [first, long, if_false, h, h', decide_true, Bool.and_self, if_true]

theorem first_three {n : Nat} (h : 0xE0 ≤ n) (h' : n ≤ 0xEF) :
    first n = ([], .inside (n - 0xE0) 2 (if n = 0xE0 then 0xA0 else 0x80)
      (if n = 0xED then 0x9F else 0xBF)) := by
  interval_cases n <;> rfl

theorem first_four {n : Nat} (h : 0xF0 ≤ n) (h' : n ≤ 0xF4) :
    first n = ([], .inside (n - 0xF0) 3 (if n = 0xF0 then 0x90 else 0x80)
      (if n = 0xF4 then 0x8F else 0xBF)) := by
  interval_cases n <;> rfl

/-! ## Characters -/

theorem toNat_ofNat {n : Nat} (h : n < 256) : (UInt8.ofNat n).toNat = n :=
  Nat.mod_eq_of_lt h

theorem valid_toNat (c : Char) : c.toNat < 0xD800 ∨ 0xDFFF < c.toNat ∧ c.toNat < 0x110000 :=
  c.valid

theorem decodeFrom_utf8EncodeChar (c : Char) (rest : Bytes) :
    decodeFrom .start (String.utf8EncodeChar c ++ rest) = c :: decodeFrom .start rest := by
  have valid := valid_toNat c
  have code : c.val.toNat = c.toNat := rfl
  have back : Char.ofNat c.toNat = c := Char.ofNat_toNat c
  generalize c.toNat = v at valid code back
  unfold String.utf8EncodeChar
  rw [code]
  dsimp only
  split_ifs with one two three
  · rw [List.singleton_append, decodeFrom_whole rest (c := c)]
    rw [toNat_ofNat (by omega), first_one (by omega), back]
  · have lead := toNat_ofNat (show v / 64 % 32 + 192 < 256 by omega)
    have last := toNat_ofNat (show v % 64 + 128 < 256 by omega)
    simp only [List.cons_append, List.nil_append]
    rw [decodeFrom_lead _ (by rw [lead]; exact first_two (by omega) (by omega)),
      decodeFrom_last rest (by omega) (by omega), last]
    have whole : 64 * (v / 64 % 32 + 192 - 0xC0) + (v % 64 + 128 - 0x80) = v := by omega
    rw [whole, back]
  · have lead := toNat_ofNat (show v / 4096 % 16 + 224 < 256 by omega)
    have second := toNat_ofNat (show v / 64 % 64 + 128 < 256 by omega)
    have last := toNat_ofNat (show v % 64 + 128 < 256 by omega)
    simp only [List.cons_append, List.nil_append]
    rw [decodeFrom_lead _ (by rw [lead]; exact first_three (by omega) (by omega)),
      decodeFrom_more _ (by split <;> omega) (by split <;> omega),
      decodeFrom_last rest (by omega) (by omega), second, last]
    have whole : 64 * (64 * (v / 4096 % 16 + 224 - 0xE0) + (v / 64 % 64 + 128 - 0x80))
        + (v % 64 + 128 - 0x80) = v := by omega
    rw [whole, back]
  · have lead := toNat_ofNat (show v / 262144 % 8 + 240 < 256 by omega)
    have second := toNat_ofNat (show v / 4096 % 64 + 128 < 256 by omega)
    have third := toNat_ofNat (show v / 64 % 64 + 128 < 256 by omega)
    have last := toNat_ofNat (show v % 64 + 128 < 256 by omega)
    simp only [List.cons_append, List.nil_append]
    rw [decodeFrom_lead _ (by rw [lead]; exact first_four (by omega) (by omega)),
      decodeFrom_more _ (by split <;> omega) (by split <;> omega),
      decodeFrom_more _ (by omega) (by omega), decodeFrom_last rest (by omega) (by omega),
      second, third, last]
    have whole : 64 * (64 * (64 * (v / 262144 % 8 + 240 - 0xF0) + (v / 4096 % 64 + 128 - 0x80))
        + (v / 64 % 64 + 128 - 0x80)) + (v % 64 + 128 - 0x80) = v := by omega
    rw [whole, back]

theorem decodeFrom_utf8Chars (cs : List Char) (rest : Bytes) :
    decodeFrom .start (utf8Chars cs ++ rest) = cs ++ decodeFrom .start rest := by
  unfold utf8Chars
  induction cs with
  | nil => rfl
  | cons c more ih =>
    rw [List.flatMap_cons, List.append_assoc, decodeFrom_utf8EncodeChar, ih, List.cons_append]

theorem decodeLossy_utf8Chars (cs : List Char) : decodeLossy (utf8Chars cs) = cs := by
  have whole := decodeFrom_utf8Chars cs []
  rwa [List.append_nil, decodeFrom, List.append_nil] at whole

/-- The bytes of one text begin with those of another just when the text does. -/
theorem utf8Chars_isPrefix_iff {cs ds : List Char} : utf8Chars cs <+: utf8Chars ds ↔ cs <+: ds := by
  constructor
  · rintro ⟨rest, whole⟩
    rw [← decodeLossy_utf8Chars ds, ← whole, decodeLossy, decodeFrom_utf8Chars]
    exact List.prefix_append _ _
  · rintro ⟨rest, rfl⟩
    rw [utf8Chars, utf8Chars, List.flatMap_append]
    exact List.prefix_append _ _

/-- Two texts are not encoded alike. -/
theorem utf8_injective : Function.Injective utf8 := by
  intro s t h
  have chars : s.toList = t.toList := by
    rw [← decodeLossy_utf8Chars s.toList, ← decodeLossy_utf8Chars t.toList]
    exact congrArg decodeLossy h
  exact String.toList_injective chars

end AccountPortal.Utf8

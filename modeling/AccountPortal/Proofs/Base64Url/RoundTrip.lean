import AccountPortal.Proofs.Base64Url.Grammar
import AccountPortal.Proofs.Text.Percent
import AccountPortal.Credential.Cookie
import AccountPortal.Credential.Token
import Mathlib.Data.List.Forall2

/-!
# Bytes are read back from every spelling

The encoder writes bytes as whole sextets, with zeros after the last byte, so the decoder finds the
bytes again. It does so in every spelling of the text: with letters of the other alphabet, with
padding, and with blanks around it (`reads_every_spelling`):

    bytes (sextets bs) = bs                                                     (bytes_sextets)
    Varied (encode bs) body → Spells (blanks ++ body ++ padding ++ blanks) body    (spells_varied)

A token is such a text, and it stands as it is in a cookie: its letters are not escaped.
-/

namespace AccountPortal.Base64Url

/-! ## Sextets of bytes -/

/-- The numbers of the letters that the encoder writes. -/
def sextets : Bytes → List Nat
  | [] => []
  | [a] => [a.toNat / 4, a.toNat % 4 * 16]
  | [a, b] => [a.toNat / 4, a.toNat % 4 * 16 + b.toNat / 16, b.toNat % 16 * 4]
  | a :: b :: c :: rest =>
    a.toNat / 4 :: (a.toNat % 4 * 16 + b.toNat / 16) :: (b.toNat % 16 * 4 + c.toNat / 64)
      :: c.toNat % 64 :: sextets rest

theorem map_letter_sextets (bs : Bytes) : (sextets bs).map letter = encodeChars bs := by
  induction bs using sextets.induct with
  | case1 | case2 | case3 => rfl
  | case4 a b c rest ih => simp only [sextets, encodeChars, List.map_cons, ih]

theorem sextets_lt (bs : Bytes) : ∀ x ∈ sextets bs, x < 64 := by
  induction bs using sextets.induct with
  | case1 => simp [sextets]
  | case2 a =>
    have := a.toNat_lt
    simp only [sextets, List.forall_mem_cons]
    exact ⟨by omega, by omega, by simp⟩
  | case3 a b =>
    have := a.toNat_lt
    have := b.toNat_lt
    simp only [sextets, List.forall_mem_cons]
    exact ⟨by omega, by omega, by omega, by simp⟩
  | case4 a b c rest ih =>
    have := a.toNat_lt
    have := b.toNat_lt
    have := c.toNat_lt
    simp only [sextets, List.forall_mem_cons]
    exact ⟨by omega, by omega, by omega, by omega, ih⟩

/-- No letter is alone in the last group. -/
theorem length_sextets (bs : Bytes) : (sextets bs).length = (4 * bs.length + 2) / 3 := by
  induction bs using sextets.induct with
  | case1 | case2 | case3 => simp [sextets]
  | case4 a b c rest ih =>
    simp only [sextets, List.length_cons, ih]
    omega

theorem toUInt8_of_eq {n : Nat} {b : UInt8} (h : n = b.toNat) : n.toUInt8 = b := by
  rw [h]
  exact UInt8.ofNat_toNat

theorem bytes_sextets (bs : Bytes) : bytes (sextets bs) = bs := by
  induction bs using sextets.induct with
  | case1 => rfl
  | case2 a =>
    have := a.toNat_lt
    have first : (a.toNat / 4 * 4 + a.toNat % 4 * 16 / 16).toUInt8 = a := toUInt8_of_eq (by omega)
    simp only [sextets, bytes, first]
  | case3 a b =>
    have := a.toNat_lt
    have := b.toNat_lt
    have first : (a.toNat / 4 * 4 + (a.toNat % 4 * 16 + b.toNat / 16) / 16).toUInt8 = a :=
      toUInt8_of_eq (by omega)
    have second :
        ((a.toNat % 4 * 16 + b.toNat / 16) % 16 * 16 + b.toNat % 16 * 4 / 4).toUInt8 = b :=
      toUInt8_of_eq (by omega)
    simp only [sextets, bytes, first, second]
  | case4 a b c rest ih =>
    have := a.toNat_lt
    have := b.toNat_lt
    have := c.toNat_lt
    have first : (a.toNat / 4 * 4 + (a.toNat % 4 * 16 + b.toNat / 16) / 16).toUInt8 = a :=
      toUInt8_of_eq (by omega)
    have second : ((a.toNat % 4 * 16 + b.toNat / 16) % 16 * 16
        + (b.toNat % 16 * 4 + c.toNat / 64) / 4).toUInt8 = b := toUInt8_of_eq (by omega)
    have third : ((b.toNat % 16 * 4 + c.toNat / 64) % 4 * 64 + c.toNat % 64).toUInt8 = c :=
      toUInt8_of_eq (by omega)
    simp only [sextets, bytes, first, second, third, ih]

/-- Encoding what was encoded and read comes to the same letters, so nothing was left over. -/
theorem spare_sextets (bs : Bytes) : ∀ b ∈ spare (sextets bs), b = false := by
  have whole : (sextets bs).length % 4 ≠ 1 := by
    rw [length_sextets]
    omega
  rw [← encodeChars_bytes (sextets_lt bs) whole, bytes_sextets, map_letter_sextets]

/-! ## Spellings -/

/-- The same letter, or the one of the other alphabet. -/
def Varies (c d : Char) : Prop := d = c ∨ (c = '-' ∧ d = '+') ∨ (c = '_' ∧ d = '/')

theorem varies_letter {n : Nat} {d : Char} (hn : n < 64) (h : Varies (letter n) d) :
    IsLetter d ∧ canonicalChar d = letter n := by
  have mem := letter_mem_urlAlphabet n hn
  have canonical : ∀ m < 64, canonicalChar (letter m) = letter m := by decide
  rcases h with rfl | ⟨hc, rfl⟩ | ⟨hc, rfl⟩
  · exact ⟨.inl mem, canonical n hn⟩
  · exact ⟨by decide, hc.symm⟩
  · exact ⟨by decide, hc.symm⟩

/-- Letter by letter, a spelling has the numbers of the letters it varies. -/
theorem value_of_varied {xs : List Nat} {body : List Char} (small : ∀ x ∈ xs, x < 64)
    (h : List.Forall₂ Varies (xs.map letter) body) :
    (∀ c ∈ body, IsLetter c) ∧ body.map value = xs := by
  induction xs generalizing body with
  | nil =>
    cases h
    exact ⟨List.forall_mem_nil _, rfl⟩
  | cons x xs ih =>
    obtain ⟨hx, hxs⟩ := List.forall_mem_cons.1 small
    obtain ⟨d, rest, hd, hrest, rfl⟩ := List.forall₂_cons_left_iff.1 h
    obtain ⟨isLetter, canonical⟩ := varies_letter hx hd
    obtain ⟨letters, values⟩ := ih hxs hrest
    have same : value d = x := by
      rw [← letter_eq_letter_iff (value_lt isLetter) hx, letter_value isLetter, canonical]
    exact ⟨List.forall_mem_cons.2 ⟨isLetter, letters⟩, by rw [List.map_cons, same, values]⟩

theorem encodeChars_ne_nil {bs : Bytes} (h : bs ≠ []) : encodeChars bs ≠ [] := by
  intro none
  apply h
  have length := length_sextets bs
  rw [← List.length_map letter, map_letter_sextets, none] at length
  rw [← List.length_eq_zero_iff]
  simp only [List.length_nil] at length
  omega

section Spelling

variable {bs : Bytes} (filled : bs ≠ []) {before body after : List Char} {pads : Nat} {v : String}
  (varied : List.Forall₂ Varies (encodeChars bs) body)
  (hbefore : ∀ c ∈ before, isBlank c = true) (hafter : ∀ c ∈ after, isBlank c = true)
  (hv : v.toList = before ++ (body ++ List.replicate pads '=') ++ after)
include filled varied hbefore hafter hv

theorem spells_varied : Spells v body := by
  rw [← map_letter_sextets] at varied
  refine ⟨(value_of_varied (sextets_lt bs) varied).1, ?_, before, pads, after, hv, ?_, hbefore,
    hafter⟩
  · rw [← varied.length_eq, List.length_map, length_sextets]
    omega
  · rw [map_letter_sextets] at varied
    rw [← varied.length_eq]
    exact Nat.add_pos_left (List.length_pos_iff.2 (encodeChars_ne_nil filled)) pads

theorem decode_varied : decode (.text v) = .ok bs := by
  have spells := spells_varied filled varied hbefore hafter hv
  rw [← map_letter_sextets] at varied
  rw [decode_spelled spells, (value_of_varied (sextets_lt bs) varied).2, bytes_sextets]

theorem canonical?_varied : canonical? (.text v) = some (encode bs) := by
  have spells := spells_varied filled varied hbefore hafter hv
  rw [← map_letter_sextets] at varied
  have values := (value_of_varied (sextets_lt bs) varied).2
  have canonical := (canonical?_spelled spells).2
  rw [values, bytes_sextets] at canonical
  exact canonical (spare_sextets bs)

end Spelling

/-! ## In a cookie -/

theorem percentEncode_encode (bs : Bytes) : percentEncode (encode bs) = encode bs := by
  have unreserved : ∀ n < 64, isUnreserved (letter n) = true := by decide
  rw [percentEncode, encode, String.toList_ofList, percentEncodeChars_eq_self]
  intro c hc
  rw [← map_letter_sextets] at hc
  obtain ⟨n, hn, rfl⟩ := List.mem_map.1 hc
  exact unreserved n (sextets_lt bs n hn)

/-! ## Every spelling -/

/-- Bytes that are encoded, with letters of either alphabet, any padding and blanks around, are read
as they were, and the canonical form of the text is the encoded one. A token is the encoded text of
its entropy, and escaping leaves that text as it is, also in a cookie. -/
theorem reads_every_spelling {bs : Bytes} (filled : bs ≠ []) {before body after : List Char}
    (pads : Nat) (varied : List.Forall₂ Varies (encode bs).toList body)
    (hbefore : ∀ c ∈ before, isBlank c = true) (hafter : ∀ c ∈ after, isBlank c = true) :
    let v := String.ofList (before ++ (body ++ List.replicate pads '=') ++ after)
    decode (.text v) = .ok bs ∧ canonical? (.text v) = some (encode bs) ∧
      Token.generate bs = encode bs ∧ percentEncode (encode bs) = encode bs ∧
      ∀ name maxAge secure, Cookie.encode name (encode bs) maxAge secure =
        name ++ "=" ++ encode bs ++ Cookie.attributes secure maxAge := by
  intro v
  rw [encode, String.toList_ofList] at varied
  have hv : v.toList = before ++ (body ++ List.replicate pads '=') ++ after := String.toList_ofList
  refine ⟨decode_varied filled varied hbefore hafter hv,
    canonical?_varied filled varied hbefore hafter hv, rfl, percentEncode_encode bs, ?_⟩
  intro name maxAge secure
  rw [Cookie.encode, percentEncode_encode]

/-- Two bytes with a letter of the other alphabet, among blanks and with too much padding. -/
theorem reads_two_bytes_of_either_alphabet :
    encode [0xFB, 0xFF] = "-_8" ∧ decode (.text "\t +_8===\n") = .ok [0xFB, 0xFF] ∧
      canonical? (.text "\t +_8===\n") = some "-_8" := by
  have encoded : encode [0xFB, 0xFF] = "-_8" := by decide
  have varied : List.Forall₂ Varies (encode [0xFB, 0xFF]).toList ['+', '_', '8'] := by
    rw [encoded]
    exact .cons (.inr (.inl ⟨rfl, rfl⟩)) (.cons (.inl rfl) (.cons (.inl rfl) .nil))
  have before : ∀ c ∈ ['\t', ' '], isBlank c = true := by simp [isBlank]
  have after : ∀ c ∈ ['\n'], isBlank c = true := by simp [isBlank]
  obtain ⟨read, canonical, -⟩ := reads_every_spelling (by decide) 3 varied before after
  rw [encoded] at canonical
  exact ⟨encoded, read, canonical⟩

end AccountPortal.Base64Url

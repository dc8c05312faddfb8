import AccountPortal.Proofs.Base64Url.Scan
import AccountPortal.Proofs.Text.Pieces

/-!
# The grammar of the decoder

A text spells letters when it is made of blanks, the letters, padding and blanks again, where not
both the letters and the padding are missing and no letter is alone in the last group of four
(`Spells`). These texts are read and no others; what is read are the leading bits of the letters,
and encoding it gives the canonical form when the other bits are zero (`reads_what_is_spelled`).

Trimming and dropping padding find the letters of such a text (`spells_iff`), and the scan reads
them (`decodeChars_letters`) or refuses what else is there (`decodeChars_foreign`).
-/

namespace AccountPortal

namespace Base64Url

section Padding

variable {cs : List Char}

theorem dropPadding_append (last : cs.getLast? ≠ some '=') (n : Nat) :
    dropPadding (cs ++ List.replicate n '=') = cs := by
  apply rdropWhile_append (by simp)
  intro c hc
  rw [decide_eq_false_iff_not]
  rintro rfl
  exact last hc

theorem exists_padding (cs : List Char) : ∃ n, cs = dropPadding cs ++ List.replicate n '=' := by
  let padding := cs.rtakeWhile (· = '=')
  have all : padding = List.replicate padding.length '=' :=
    List.eq_replicate_of_mem fun c hc => by simpa using List.mem_rtakeWhile_imp hc
  refine ⟨padding.length, ?_⟩
  rw [← all]
  exact List.rdropWhile_append_rtakeWhile.symm

theorem getLast?_dropPadding (cs : List Char) : (dropPadding cs).getLast? ≠ some '=' := by
  rw [dropPadding, List.getLast?_reverse]
  intro h
  simpa using head?_dropWhile h

end Padding

/-! ## Letters of either alphabet -/

def alphanumerics : List Char :=
  ['A', 'B', 'C', 'D', 'E', 'F', 'G', 'H', 'I', 'J', 'K', 'L', 'M', 'N', 'O', 'P', 'Q', 'R', 'S',
   'T', 'U', 'V', 'W', 'X', 'Y', 'Z', 'a', 'b', 'c', 'd', 'e', 'f', 'g', 'h', 'i', 'j', 'k', 'l',
   'm', 'n', 'o', 'p', 'q', 'r', 's', 't', 'u', 'v', 'w', 'x', 'y', 'z', '0', '1', '2', '3', '4',
   '5', '6', '7', '8', '9']

def urlAlphabet : List Char := alphanumerics ++ ['-', '_']

def plainAlphabet : List Char := alphanumerics ++ ['+', '/']

def IsLetter (c : Char) : Prop := c ∈ urlAlphabet ∨ c ∈ plainAlphabet

instance (c : Char) : Decidable (IsLetter c) := inferInstanceAs (Decidable (_ ∨ _))

/-- The place of a letter in its alphabet. -/
def value (c : Char) : Nat :=
  if c ∈ urlAlphabet then urlAlphabet.idxOf c else plainAlphabet.idxOf c

theorem alphabets_checked : ((urlAlphabet ++ plainAlphabet).all fun c =>
    value c < 64 ∧ letter (value c) = canonicalChar c ∧ c ≠ '=' ∧ isBlank c = false) = true := by
  decide +kernel

section Letter

variable {c : Char} (h : IsLetter c)
include h

theorem letter_facts :
    value c < 64 ∧ letter (value c) = canonicalChar c ∧ c ≠ '=' ∧ isBlank c = false := by
  simpa using List.all_eq_true.1 alphabets_checked c (List.mem_append.2 h)

theorem value_lt : value c < 64 := (letter_facts h).1

theorem letter_value : letter (value c) = canonicalChar c := (letter_facts h).2.1

theorem ne_padding : c ≠ '=' := (letter_facts h).2.2.1

theorem isBlank_eq_false : isBlank c = false := (letter_facts h).2.2.2

end Letter

theorem canonicalChar_eq_padding {c : Char} : canonicalChar c = '=' ↔ c = '=' := by
  unfold canonicalChar
  split_ifs with h h <;> simp [h]

theorem toNat_le {a c : Char} (h : a ≤ c) : a.toNat ≤ c.toNat := h

theorem letter_of_sextet? {c : Char} {n : Nat} (h : sextet? c = some n) :
    n < 64 ∧ letter n = c := by
  unfold sextet? at h
  split_ifs at h with upper lower digit dash low
  · have h₁ : 65 ≤ c.toNat := toNat_le upper.1
    have h₂ : c.toNat ≤ 90 := toNat_le upper.2
    cases h
    refine ⟨by omega, ?_⟩
    rw [letter, if_pos (by omega), Nat.add_sub_cancel' h₁, Char.ofNat_toNat]
  · have h₁ : 97 ≤ c.toNat := toNat_le lower.1
    have h₂ : c.toNat ≤ 122 := toNat_le lower.2
    cases h
    refine ⟨by omega, ?_⟩
    rw [letter, if_neg (by omega), if_pos (by omega), Nat.add_sub_cancel' (by omega),
      Char.ofNat_toNat]
  · have h₁ : 48 ≤ c.toNat := toNat_le digit.1
    have h₂ : c.toNat ≤ 57 := toNat_le digit.2
    cases h
    refine ⟨by omega, ?_⟩
    rw [letter, if_neg (by omega), if_neg (by omega), if_pos (by omega), Nat.add_sub_cancel,
      Char.ofNat_toNat]
  · cases h
    exact ⟨by decide, dash.symm⟩
  · cases h
    exact ⟨by decide, low.symm⟩

theorem letter_mem_urlAlphabet : ∀ n < 64, letter n ∈ urlAlphabet := by
  decide +kernel

theorem sextet?_eq_none {c : Char} (h : ¬ IsLetter c) : sextet? (canonicalChar c) = none := by
  by_contra some
  obtain ⟨n, hn⟩ := Option.ne_none_iff_exists'.1 some
  obtain ⟨small, hletter⟩ := letter_of_sextet? hn
  have mem : canonicalChar c ∈ urlAlphabet := hletter ▸ letter_mem_urlAlphabet n small
  apply h
  unfold canonicalChar at mem
  split_ifs at mem with plus slash
  · subst plus
    decide
  · subst slash
    decide
  · exact .inl mem

theorem map_letter_value {d : List Char} (hd : ∀ c ∈ d, IsLetter c) :
    (d.map value).map letter = d.map canonicalChar := by
  rw [List.map_map]
  exact List.map_congr_left fun c hc => letter_value (hd c hc)

theorem map_value_lt {d : List Char} (hd : ∀ c ∈ d, IsLetter c) : ∀ x ∈ d.map value, x < 64 := by
  intro x hx
  obtain ⟨c, hc, rfl⟩ := List.mem_map.1 hx
  exact value_lt (hd c hc)

/-! ## Spelling -/

/-- Blanks, letters, padding and blanks: not blank, and no letter alone in the last group. -/
structure Spells (s : String) (d : List Char) : Prop where
  letters : ∀ c ∈ d, IsLetter c
  whole : d.length % 4 ≠ 1
  between : ∃ before pads after, s.toList = before ++ (d ++ List.replicate pads '=') ++ after ∧
    0 < d.length + pads ∧ (∀ c ∈ before, isBlank c = true) ∧ ∀ c ∈ after, isBlank c = true

/-- What a text spells is found by trimming it and dropping the padding. -/
theorem spells_iff {s : String} {d : List Char} :
    Spells s d ↔ trimChars isBlank s.toList ≠ [] ∧ d = dropPadding (trimChars isBlank s.toList) ∧
      (∀ c ∈ d, IsLetter c) ∧ d.length % 4 ≠ 1 := by
  constructor
  · rintro ⟨letters, whole, before, pads, after, hs, more, hbefore, hafter⟩
    have solid : ∀ c ∈ d ++ List.replicate pads '=', isBlank c = false := by
      intro c hc
      rcases List.mem_append.1 hc with hc | hc
      · exact isBlank_eq_false (letters c hc)
      · rw [List.eq_of_mem_replicate hc]
        decide
    have hne : d ++ List.replicate pads '=' ≠ [] := by
      rw [← List.length_pos_iff, List.length_append, List.length_replicate]
      exact more
    have trimmed : trimChars isBlank s.toList = d ++ List.replicate pads '=' := by
      rw [hs]
      exact trimChars_between hbefore hafter (fun c h => solid c (List.mem_of_head? h))
        fun c h => solid c (List.mem_of_getLast? h)
    have last : d.getLast? ≠ some '=' := fun h =>
      ne_padding (letters _ (List.mem_of_getLast? h)) rfl
    rw [trimmed, dropPadding_append last]
    exact ⟨hne, rfl, letters, whole⟩
  · rintro ⟨hne, hd, letters, whole⟩
    obtain ⟨before, after, hs, hbefore, hafter⟩ := exists_around_trimChars isBlank s.toList
    obtain ⟨pads, hpads⟩ := exists_padding (trimChars isBlank s.toList)
    rw [← hd] at hpads
    refine ⟨letters, whole, before, pads, after, ?_, ?_, hbefore, hafter⟩
    · rw [← hpads]
      exact hs
    · rw [hpads, ← List.length_pos_iff, List.length_append, List.length_replicate] at hne
      exact hne

/-! ## Reading -/

section Text

variable {s : String} {d : List Char}

theorem getLast?_map_canonicalChar {cs : List Char} (h : cs.getLast? ≠ some '=') :
    (cs.map canonicalChar).getLast? ≠ some '=' := by
  rw [List.getLast?_map]
  intro hmap
  obtain ⟨c, hc, heq⟩ := Option.map_eq_some_iff.1 hmap
  rw [canonicalChar_eq_padding] at heq
  exact h (heq ▸ hc)

theorem dropPadding_map_canonicalChar (cs : List Char) :
    dropPadding (cs.map canonicalChar) = (dropPadding cs).map canonicalChar := by
  obtain ⟨n, hn⟩ := exists_padding cs
  conv_lhs => rw [hn, List.map_append, List.map_replicate]
  exact dropPadding_append (getLast?_map_canonicalChar (getLast?_dropPadding cs)) n

theorem canonical?_text (h : trimChars isBlank s.toList ≠ []) :
    canonical? (.text s)
      = some (String.ofList ((dropPadding (trimChars isBlank s.toList)).map canonicalChar)) := by
  have : (trimChars isBlank s.toList).isEmpty = false := by simpa using h
  simp only [canonical?, canonicalChars?, this, dropPadding_map_canonicalChar, Option.map_some,
    Bool.false_eq_true, if_false]

theorem decode_text (h : trimChars isBlank s.toList ≠ []) :
    decode (.text s)
      = decodeChars ((dropPadding (trimChars isBlank s.toList)).map canonicalChar) := by
  simp only [decode, canonical?_text h, String.toList_ofList]

/-- Letters are read as the bytes their numbers hold, whatever stands around them. -/
theorem decode_spelled (h : Spells s d) : decode (.text s) = .ok (bytes (d.map value)) := by
  obtain ⟨hne, hd, letters, whole⟩ := spells_iff.1 h
  have small := map_value_lt letters
  rw [decode_text hne, ← hd, ← map_letter_value letters, decodeChars_letters small,
    if_neg (by rwa [List.length_map])]

example : decode (.text "+/8=") = .ok [0xFB, 0xFF] := by decide

/-- A text that spells nothing is blank, leaves a letter alone, or holds what is no letter. -/
theorem decode_unspelled (h : ∀ d, ¬ Spells s d) : ∃ e, decode (.text s) = .error e := by
  by_cases hne : trimChars isBlank s.toList = []
  · have blank : canonical? (.text s) = none := by simp [canonical?, canonicalChars?, hne]
    exact ⟨.blank, by rw [decode, blank]⟩
  rw [decode_text hne]
  generalize hd : dropPadding (trimChars isBlank s.toList) = d
  by_cases letters : ∀ c ∈ d, IsLetter c
  · have alone : d.length % 4 = 1 := by
      by_contra whole
      exact h d (spells_iff.2 ⟨hne, hd.symm, letters, whole⟩)
    have small := map_value_lt letters
    rw [← map_letter_value letters, decodeChars_letters small, List.length_map, if_pos alone]
    exact ⟨_, rfl⟩
  · obtain ⟨c, hc, foreign⟩ : ∃ c ∈ d, ¬ IsLetter c := by simpa using letters
    refine decodeChars_foreign (List.mem_map_of_mem hc) (sextet?_eq_none foreign) ?_
    exact getLast?_map_canonicalChar (hd ▸ getLast?_dropPadding _)

/-- What is read is encoded as the canonical form when the bits left over are zero. -/
theorem canonical?_spelled (h : Spells s d) :
    canonical? (.text s) = some (encode (bytes (d.map value)))
      ↔ ∀ b ∈ spare (d.map value), b = false := by
  obtain ⟨hne, hd, letters, whole⟩ := spells_iff.1 h
  have small := map_value_lt letters
  rw [← encodeChars_bytes small (by rwa [List.length_map]), canonical?_text hne, ← hd,
    ← map_letter_value letters, Option.some_inj, encode, String.ofList_inj]
  exact eq_comm

end Text

/-- A value is read when it is a text that spells letters of one of the alphabets, and only then;
the bytes are the leading bits of the letters, and they are encoded as the canonical form of the
text exactly when the bits left over are zero. -/
theorem reads_what_is_spelled (v : Value) :
    (∀ s d, v = .text s → Spells s d →
      ∃ bs unused, decode v = .ok bs ∧ bs.length = 3 * d.length / 4 ∧
        d.flatMap (fun c => bits 6 (value c)) = bs.flatMap (fun b => bits 8 b.toNat) ++ unused ∧
        unused.length = 6 * d.length % 8 ∧
        (canonical? v = some (encode bs) ↔ ∀ b ∈ unused, b = false)) ∧
      ((∀ s d, v = .text s → ¬ Spells s d) → ∃ e, decode v = .error e) := by
  constructor
  · rintro s d rfl h
    refine ⟨bytes (d.map value), spare (d.map value), decode_spelled h, ?_, ?_, ?_,
      canonical?_spelled h⟩
    · rw [length_bytes, List.length_map]
    · rw [← flatMap_bits_bytes (map_value_lt h.letters), List.flatMap_map]
    · rw [length_spare, List.length_map]
  · intro h
    cases v with
    | text s => exact decode_unspelled fun d => h s d rfl
    | _ => exact ⟨.blank, rfl⟩

theorem reads_two_bytes_of_three_letters :
    (∃ (bs : Bytes) (unused : List Bool),
      decode (.text " QUJ=\n") = .ok bs ∧ bs.length = 2 ∧ unused.length = 2 ∧
      (canonical? (.text " QUJ=\n") = some (encode bs) ↔ ∀ b ∈ unused, b = false)) ∧
      ∃ e, decode (.text "Q=Q=") = .error e := by
  constructor
  · have letters : ∀ c ∈ ['Q', 'U', 'J'], IsLetter c := List.forall_mem_cons.2
      ⟨by decide, List.forall_mem_cons.2 ⟨by decide, List.forall_mem_singleton.2 (by decide)⟩⟩
    have spells : Spells " QUJ=\n" ['Q', 'U', 'J'] :=
      spells_iff.2 ⟨by decide, by decide, letters, by decide⟩
    obtain ⟨bs, unused, ok, length, -, left, canonical⟩ :=
      (reads_what_is_spelled (.text " QUJ=\n")).1 _ _ rfl spells
    exact ⟨bs, unused, ok, length, left, canonical⟩
  · refine (reads_what_is_spelled (.text "Q=Q=")).2 ?_
    rintro s d ⟨⟩ spells
    obtain ⟨-, rfl, letters, -⟩ := spells_iff.1 spells
    have : ¬ IsLetter '=' := by decide
    exact this (letters '=' (by decide))

end Base64Url

end AccountPortal

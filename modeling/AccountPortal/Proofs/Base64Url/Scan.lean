import AccountPortal.Proofs.Base64Url.Bits

/-!
# What a scan reads

Letters and the padding that fills up their last group are read as bytes, unless one letter is left
alone in that group; a character that is no letter makes the scan fail wherever it stands:

    decodeChars (xs.map letter) = .ok (bytes xs)              when `xs` leaves no letter alone
                                                                              (decodeChars_letters)
    decodeChars cs = .error e       when `cs` holds what is no letter and does not end in padding
                                                                              (decodeChars_foreign)
-/

namespace AccountPortal.Base64Url

/-! ## A character -/

theorem letter_ne_padding : ∀ n < 64, letter n ≠ '=' := by
  decide

theorem toNat_letter_lt : ∀ n < 64, (letter n).toNat < 0x80 := by
  decide

section Step

variable {s : Scan} (rest : List Char)

theorem scan_letter {n : Nat} (hn : n < 64) (clean : s.padded = false) :
    scan s (letter n :: rest) = (scan (s.take n).2 rest).map ((s.take n).1 ++ ·) := by
  simp [scan, letter_ne_padding n hn, sextet?_letter n hn, clean]

theorem scan_early_padding (early : s.place < 2) :
    scan s ('=' :: rest) = scan { s with padded := true } rest := by
  simp only [scan, if_true, if_neg (Nat.not_le.2 early)]

theorem scan_padding (late : 2 ≤ s.place) (short : s.place + (s.pads + 1) < 4) :
    scan s ('=' :: rest) = scan { s with pads := s.pads + 1, padded := true } rest := by
  simp only [scan, if_true, if_pos late, if_neg (Nat.not_le.2 short)]

theorem scan_last_padding (late : 2 ≤ s.place) (full : 4 ≤ s.place + (s.pads + 1)) :
    scan s ('=' :: rest) = if rest.isEmpty then .ok [] else .error .excess := by
  simp only [scan, if_true, if_pos late, if_pos full]

end Step

theorem scan_end {s : Scan} (h : s.place = 0) : scan s [] = .ok [] := by
  simp only [scan, h]

theorem scan_end_lonely {s : Scan} (h : s.place = 1) : scan s [] = .error (.lonely s.letters) := by
  simp only [scan, h]

/-! ## A group -/

/-- Before the letter at place `i` of the group that follows `k` whole ones, with no padding so
far. -/
def Scan.at (k i held : Nat) : Scan := ⟨4 * k + i, 0, false, held⟩

section Group

variable (k : Nat) {a b c d : Nat}

theorem place_at {i : Nat} (hi : i < 4) (held : Nat) : (Scan.at k i held).place = i := by
  simp only [Scan.at, Scan.place]
  omega

theorem take_at_zero (held v : Nat) : (Scan.at k 0 held).take v = ([], .at k 1 v) := by
  rw [Scan.take, place_at k (by decide)]
  rfl

theorem take_at_one (held v : Nat) :
    (Scan.at k 1 held).take v = ([(held * 4 + v / 16).toUInt8], .at k 2 (v % 16)) := by
  rw [Scan.take, place_at k (by decide)]
  rfl

theorem take_at_two (held v : Nat) :
    (Scan.at k 2 held).take v = ([(held * 16 + v / 4).toUInt8], .at k 3 (v % 4)) := by
  rw [Scan.take, place_at k (by decide)]
  rfl

theorem take_at_three (held v : Nat) :
    (Scan.at k 3 held).take v = ([(held * 64 + v).toUInt8], .at (k + 1) 0 0) := by
  rw [Scan.take, place_at k (by decide)]
  rfl

/-- The padding after two letters of a group, or after three. -/
theorem scan_fill {i : Nat} (two : 2 ≤ i) (four : i < 4) (held : Nat) :
    scan (.at k i held) (List.replicate (4 - i) '=') = .ok [] := by
  have place := place_at k four held
  have pads : (Scan.at k i held).pads = 0 := rfl
  obtain rfl | rfl : i = 2 ∨ i = 3 := by omega
  · show scan (.at k 2 held) ['=', '='] = .ok []
    rw [scan_padding _ (by omega) (by omega), scan_last_padding]
    · rfl
    · exact place.ge
    · exact Nat.add_le_add_right place.ge 2
  · show scan (.at k 3 held) ['='] = .ok []
    rw [scan_last_padding _ (by omega) (by omega)]
    rfl

/-- One letter in a group cannot be filled up. -/
theorem scan_one (ha : a < 64) :
    scan (.at k 0 0) [letter a, '=', '=', '='] = .error (.lonely (4 * k + 1)) := by
  have early {s : Scan} (h : s.place = 1) (rest : List Char) :
      scan s ('=' :: rest) = scan { s with padded := true } rest :=
    scan_early_padding rest (by omega)
  have alone {s : Scan} (h : s.place = 1) :
      scan s ['=', '=', '='] = .error (.lonely s.letters) := by
    have again : ({ s with padded := true } : Scan).place = 1 := h
    rw [early h, early again, early again]
    exact scan_end_lonely again
  rw [scan_letter _ ha rfl, take_at_zero, alone (place_at k (by decide) a)]
  rfl

theorem scan_two (ha : a < 64) (hb : b < 64) :
    scan (.at k 0 0) [letter a, letter b, '=', '='] = .ok (bytes [a, b]) := by
  have fill : scan (.at k 2 (b % 16)) ['=', '='] = .ok [] := scan_fill k le_rfl (by decide) _
  rw [scan_letter _ ha rfl, take_at_zero, scan_letter _ hb rfl, take_at_one, fill]
  rfl

theorem scan_three (ha : a < 64) (hb : b < 64) (hc : c < 64) :
    scan (.at k 0 0) [letter a, letter b, letter c, '='] = .ok (bytes [a, b, c]) := by
  have fill : scan (.at k 3 (c % 4)) ['='] = .ok [] := scan_fill k (by decide) (by decide) _
  rw [scan_letter _ ha rfl, take_at_zero, scan_letter _ hb rfl, take_at_one,
    scan_letter _ hc rfl, take_at_two, fill]
  rfl

theorem scan_four (ha : a < 64) (hb : b < 64) (hc : c < 64) (hd : d < 64) (rest : List Char) :
    scan (.at k 0 0) (letter a :: letter b :: letter c :: letter d :: rest)
      = (scan (.at (k + 1) 0 0) rest).map (bytes [a, b, c, d] ++ ·) := by
  rw [scan_letter _ ha rfl, take_at_zero, scan_letter _ hb rfl, take_at_one,
    scan_letter _ hc rfl, take_at_two, scan_letter _ hd rfl, take_at_three]
  cases scan (.at (k + 1) 0 0) rest <;> rfl

end Group

/-! ## Letters and the padding that fills them up -/

theorem fillUp_group (a b c d : Char) (rest : List Char) :
    fillUp (a :: b :: c :: d :: rest) = a :: b :: c :: d :: fillUp rest := by
  have : (rest.length + 4) % 4 = rest.length % 4 := Nat.add_mod_right _ _
  simp only [fillUp, List.length_cons, List.cons_append, this]

theorem scan_fillUp (k : Nat) {xs : List Nat} (hxs : ∀ x ∈ xs, x < 64) :
    scan (.at k 0 0) (fillUp (xs.map letter))
      = if xs.length % 4 = 1 then .error (.lonely (4 * k + xs.length)) else .ok (bytes xs) := by
  induction xs using bytes.induct generalizing k with
  | case1 => exact scan_end (place_at k (by decide) 0)
  | case2 a =>
    simp only [List.forall_mem_cons] at hxs
    exact scan_one k hxs.1
  | case3 a b =>
    simp only [List.forall_mem_cons] at hxs
    exact scan_two k hxs.1 hxs.2.1
  | case4 a b c =>
    simp only [List.forall_mem_cons] at hxs
    exact scan_three k hxs.1 hxs.2.1 hxs.2.2.1
  | case5 a b c d rest ih =>
    simp only [List.forall_mem_cons] at hxs
    obtain ⟨ha, hb, hc, hd, hrest⟩ := hxs
    have count : 4 * (k + 1) + rest.length = 4 * k + (rest.length + 4) := by omega
    have place : (rest.length + 4) % 4 = rest.length % 4 := Nat.add_mod_right _ _
    simp only [List.map_cons, fillUp_group, scan_four k ha hb hc hd, ih (k + 1) hrest,
      List.length_cons, count, place]
    split <;> rfl

/-- Letters are read as the bytes they hold, unless the last group is a single letter. -/
theorem decodeChars_letters {xs : List Nat} (hxs : ∀ x ∈ xs, x < 64) :
    decodeChars (xs.map letter)
      = if xs.length % 4 = 1 then .error (.lonely xs.length) else .ok (bytes xs) := by
  have ascii : ((fillUp (xs.map letter)).any (·.toNat ≥ 0x80)) = false := by
    rw [List.any_eq_false]
    intro c hc
    have : c.toNat < 0x80 := by
      rw [fillUp, List.mem_append, List.mem_map] at hc
      rcases hc with ⟨x, hx, rfl⟩ | padding
      · exact toNat_letter_lt x (hxs x hx)
      · rw [List.eq_of_mem_replicate padding]
        decide
    simpa using this
  have first : (fillUp (xs.map letter)).head? ≠ some '=' := by
    cases xs with
    | nil => decide
    | cons x rest =>
      intro h
      exact letter_ne_padding x (hxs x List.mem_cons_self) (Option.some.inj h)
  have start := scan_fillUp 0 hxs
  rw [Nat.mul_zero, Nat.zero_add] at start
  rw [decodeChars, ascii, if_neg Bool.false_ne_true, if_neg first]
  exact start

/-! ## What is no letter -/

/-- Padding before what is refused after padding. -/
theorem scan_padding_refused {rest : List Char} (more : rest ≠ [])
    (h : ∀ t : Scan, t.padded = true → ∃ e, scan t rest = .error e) (s : Scan) :
    ∃ e, scan s ('=' :: rest) = .error e := by
  by_cases early : s.place < 2
  · rw [scan_early_padding rest early]
    exact h _ rfl
  by_cases short : s.place + (s.pads + 1) < 4
  · rw [scan_padding rest (Nat.not_lt.1 early) short]
    exact h _ rfl
  · rw [scan_last_padding rest (Nat.not_lt.1 early) (Nat.not_lt.1 short),
      if_neg (by simpa using more)]
    exact ⟨_, rfl⟩

theorem scan_after_padding {cs : List Char} {c : Char} (hc : c ∈ cs) (data : c ≠ '=') (s : Scan)
    (padded : s.padded = true) : ∃ e, scan s cs = .error e := by
  induction cs generalizing s with
  | nil => cases hc
  | cons d rest ih =>
    by_cases hd : d = '='
    · subst hd
      have later : c ∈ rest := (List.mem_cons.1 hc).resolve_left data
      exact scan_padding_refused (List.ne_nil_of_mem later) (ih later) s
    · cases h : sextet? d with
      | none => exact ⟨.foreign, by simp only [scan, if_neg hd, h]⟩
      | some v => exact ⟨.dataAfterPadding, by simp only [scan, if_neg hd, h, if_pos padded]⟩

/-- The scan meets the character that is no letter, or padding before it. The text does not end in
padding, so there is something after such padding that the scan refuses. -/
theorem scan_foreign {cs : List Char} {c last : Char} (hc : c ∈ cs) (foreign : sextet? c = none)
    (hlast : cs.getLast? = some last) (data : last ≠ '=') (padding : List Char) (s : Scan)
    (clean : s.padded = false) : ∃ e, scan s (cs ++ padding) = .error e := by
  induction cs generalizing s with
  | nil => cases hc
  | cons d rest ih =>
    by_cases hd : d = '='
    · subst hd
      have later : last ∈ rest := (List.mem_cons.1 (List.mem_of_getLast? hlast)).resolve_left data
      have hrest : last ∈ rest ++ padding := List.mem_append_left _ later
      exact scan_padding_refused (List.ne_nil_of_mem hrest) (scan_after_padding hrest data) s
    · cases h : sextet? d with
      | none => exact ⟨.foreign, by simp only [List.cons_append, scan, if_neg hd, h]⟩
      | some v =>
        have different : c ≠ d := by
          rintro rfl
          rw [foreign] at h
          cases h
        have later : c ∈ rest := (List.mem_cons.1 hc).resolve_left different
        rw [List.getLast?_cons_of_ne_nil (List.ne_nil_of_mem later)] at hlast
        have next : (s.take v).2.padded = false := by
          unfold Scan.take
          dsimp only
          split <;> exact clean
        obtain ⟨e, he⟩ := ih later hlast (s.take v).2 next
        refine ⟨e, ?_⟩
        simp only [List.cons_append, scan, if_neg hd, h, clean, Bool.false_eq_true, if_false, he]
        rfl

/-- What is no letter is refused, unless it is padding at the end. -/
theorem decodeChars_foreign {cs : List Char} {c : Char} (hc : c ∈ cs)
    (foreign : sextet? c = none) (unpadded : cs.getLast? ≠ some '=') :
    ∃ e, decodeChars cs = .error e := by
  obtain ⟨last, hlast⟩ : ∃ last, cs.getLast? = some last :=
    Option.isSome_iff_exists.1 (by simpa using List.ne_nil_of_mem hc)
  have data : last ≠ '=' := by
    rintro rfl
    exact unpadded hlast
  unfold decodeChars
  dsimp only
  split
  · exact ⟨_, rfl⟩
  split
  · exact ⟨_, rfl⟩
  · exact scan_foreign hc foreign hlast data _ .start rfl

end AccountPortal.Base64Url

import AccountPortal.Proofs.Text.LowerCase
import AccountPortal.Proofs.Text.Percent

/-!
# Lower case and ASCII

ASCII text at the front of a text is lower-cased letter by letter, and what comes to such text is the
same letters in either case:

    ∃ after, lowerFrom afterCased (mark ++ rest)
      = mark.map asciiLowerChar ++ lowerFrom after rest                    (lowerFrom_ascii_append)
    lowerFrom afterCased cs = mark ++ lowered →
      ∃ front rest after, cs = front ++ rest ∧ front.map asciiLowerChar = mark ∧
        lowered = lowerFrom after rest                           (exists_of_lowerFrom_eq_append)

The second has two exceptions, which `lowerChar_eq_cons` tells: the Kelvin sign comes to a k, and the
dotted capital I to an i, though not without the dot after it.

What a class takes out of the lower case does not depend on where the letters stand when it has
neither of the small sigmas (`filter_lowerFrom`).
-/

namespace AccountPortal

/-! ## Characters -/

theorem lowerChar_of_ascii {c : Char} (h : c.toNat < 0x80) : lowerChar c = [asciiLowerChar c] := by
  have checked : ∀ n < 0x80, lowerChar (Char.ofNat n) = [asciiLowerChar (Char.ofNat n)] := by
    decide +kernel
  exact forall_ascii (P := fun c => lowerChar c = [asciiLowerChar c]) checked h

theorem asciiLowerChar_of_not_ascii {c : Char} (h : ¬ c.toNat < 0x80) : asciiLowerChar c = c := by
  have other : ¬ ('A' ≤ c ∧ c ≤ 'Z') := by
    rintro ⟨-, last⟩
    have bound : c.toNat ≤ 0x5A := last
    omega
  rw [asciiLowerChar, if_neg other]

theorem ascii_of_asciiLowerChar {c : Char} (h : (asciiLowerChar c).toNat < 0x80) :
    c.toNat < 0x80 := by
  by_contra other
  rw [asciiLowerChar_of_not_ascii other] at h
  exact other h

theorem isBlank_asciiLowerChar (c : Char) : isBlank (asciiLowerChar c) = isBlank c := by
  by_cases ascii : c.toNat < 0x80
  · have checked : ∀ n < 0x80,
        isBlank (asciiLowerChar (Char.ofNat n)) = isBlank (Char.ofNat n) := by
      decide
    exact forall_ascii (P := fun c => isBlank (asciiLowerChar c) = isBlank c) checked ascii
  · rw [asciiLowerChar_of_not_ascii ascii]

/-- From outside ASCII only the run of the Kelvin sign leads into it. -/
theorem lowerRuns_ascii : ∀ r ∈ lowerRuns, r.last < 0x80 ∨
    r.first = 0x212A ∧ r.last = 0x212A ∧ r.apply 0x212A = 0x6B ∨ 0x80 ≤ r.apply r.first := by
  decide +kernel

/-- What comes to an ASCII character: that character in either case and, for two of them, one letter
outside ASCII. -/
theorem lowerChar_eq_cons {c d : Char} {more : List Char} (h : lowerChar c = d :: more)
    (ascii : d.toNat < 0x80) :
    asciiLowerChar c = d ∧ more = [] ∨ c = 'İ' ∧ d = 'i' ∧ more = ['\u0307'] ∨
      c = '\u212A' ∧ d = 'k' ∧ more = [] := by
  by_cases small : c.toNat < 0x80
  · rw [lowerChar_of_ascii small, List.cons.injEq] at h
    exact Or.inl ⟨h.1, h.2.symm⟩
  · rcases lowerChar_cases c with ⟨dotted, hc⟩ | hc | ⟨r, hr, hhas, hc⟩
    · rw [hc, List.cons.injEq] at h
      exact Or.inr (Or.inl ⟨dotted, h.1.symm, h.2.symm⟩)
    · have same : lowerChar c = [c] := hc
      rw [same, List.cons.injEq] at h
      rw [h.1] at small
      exact absurd ascii small
    · rw [hc, List.cons.injEq] at h
      obtain ⟨hd, rfl⟩ := h
      have code : d.toNat = r.apply c.toNat := by rw [← hd, toNat_apply hr hhas]
      obtain ⟨low, high, -⟩ := CaseRun.bounds_of_has hhas
      rcases lowerRuns_ascii r hr with below | ⟨first, last, kelvin⟩ | above
      · omega
      · have point : c.toNat = 0x212A := by omega
        rw [point, kelvin] at code
        refine Or.inr (Or.inr ⟨?_, ?_, rfl⟩)
        · rw [← Char.ofNat_toNat c, point]
        · rw [← Char.ofNat_toNat d, code]
      · have := r.apply_le_apply low
        omega

/-! ## Texts -/

theorem filter_lowerFrom {p : Char → Bool} (inner : p 'σ' = false) (final : p 'ς' = false)
    (afterCased : Bool) (cs : List Char) :
    (lowerFrom afterCased cs).filter p = (cs.flatMap lowerChar).filter p := by
  induction cs generalizing afterCased with
  | nil => rfl
  | cons c rest ih =>
    obtain ⟨after, heq | ⟨rfl, heq⟩⟩ := lowerFrom_cons_cases afterCased c rest
    · rw [heq, List.flatMap_cons, List.filter_append, List.filter_append, ih]
    · have sigma : lowerChar 'Σ' = ['σ'] := by decide +kernel
      rw [heq, List.flatMap_cons, sigma, List.singleton_append,
        List.filter_cons_of_neg (by simp [final]), List.filter_cons_of_neg (by simp [inner]), ih]

theorem lowerFrom_ascii_append (afterCased : Bool) {mark : List Char}
    (ascii : ∀ c ∈ mark, c.toNat < 0x80) (rest : List Char) :
    ∃ after, lowerFrom afterCased (mark ++ rest) =
      mark.map asciiLowerChar ++ lowerFrom after rest := by
  induction mark generalizing afterCased with
  | nil => exact ⟨afterCased, rfl⟩
  | cons c more ih =>
    obtain ⟨hc, hmore⟩ := List.forall_mem_cons.mp ascii
    obtain ⟨after, heq | ⟨rfl, -⟩⟩ := lowerFrom_cons_cases afterCased c (more ++ rest)
    · obtain ⟨last, hlast⟩ := ih after hmore
      refine ⟨last, ?_⟩
      rw [List.cons_append, heq, lowerChar_of_ascii hc, hlast, List.map_cons]
      rfl
    · exact absurd hc (by decide)

/-- The dot of a dotted i would be the next character of the mark, or follow it where the mark ends
with the i. -/
theorem exists_of_lowerFrom_eq_append {afterCased : Bool} {mark cs lowered : List Char}
    (plain : ∀ d ∈ mark, d.toNat < 0x80 ∧ d ≠ 'k') (last : mark.getLast? ≠ some 'i')
    (h : lowerFrom afterCased cs = mark ++ lowered) :
    ∃ front rest after, cs = front ++ rest ∧ front.map asciiLowerChar = mark ∧
      lowered = lowerFrom after rest := by
  induction mark generalizing afterCased cs with
  | nil => exact ⟨[], cs, afterCased, rfl, rfl, h.symm⟩
  | cons d ds ih =>
    obtain ⟨hd, hds⟩ := List.forall_mem_cons.mp plain
    cases cs with
    | nil => cases h
    | cons c more =>
      obtain ⟨after, heq | ⟨-, heq⟩⟩ := lowerFrom_cons_cases afterCased c more
      · obtain ⟨e, others, he⟩ := List.exists_cons_of_ne_nil (lowerChar_ne_nil c)
        rw [heq, he, List.cons_append, List.cons_append, List.cons.injEq] at h
        obtain ⟨rfl, htail⟩ := h
        rcases lowerChar_eq_cons he hd.1 with ⟨hc, rfl⟩ | ⟨-, rfl, rfl⟩ | ⟨-, rfl, -⟩
        · have last_ds : ds.getLast? ≠ some 'i' := by
            cases ds with
            | nil => simp
            | cons x xs => rwa [List.getLast?_cons_cons] at last
          obtain ⟨front, rest, after', rfl, rfl, hlowered⟩ := ih hds last_ds htail
          exact ⟨c :: front, rest, after', rfl, by rw [List.map_cons, hc], hlowered⟩
        · cases ds with
          | nil => exact absurd rfl last
          | cons x xs =>
            rw [List.cons_append, List.cons_append, List.cons.injEq] at htail
            obtain ⟨rfl, -⟩ := htail
            exact absurd (hds _ List.mem_cons_self).1 (by decide)
        · exact absurd rfl hd.2
      · rw [heq, List.cons_append, List.cons.injEq] at h
        obtain ⟨rfl, -⟩ := h
        exact absurd hd.1 (by decide)

end AccountPortal

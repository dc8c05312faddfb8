import AccountPortal.Credential.Email

/-!
# Lower case stays as it is

What lower-casing made is left alone by lower-casing, and normalising an address again, or folding
its ASCII letters, changes nothing:

    lower (lower s) = lower s                                                       (lower_lower)
    normalizeEmail (normalizeEmail s) = normalizeEmail s          (normalizeEmail_normalizeEmail)
    asciiLower (normalizeEmail s) = normalizeEmail s                  (asciiLower_normalizeEmail)

All of it rests on the table of letters: what a run maps to lies outside every run, and is neither
blank nor the dotted capital I (`lowerRuns_misses`). Blanks lie outside every run as well
(`lowerRuns_apart`).
-/

namespace AccountPortal

/-! ## Runs -/

namespace CaseRun

/-- What the first run maps to lies before the second, after it, or between its points. -/
def misses (r s : CaseRun) : Bool :=
  Nat.blt (r.apply r.last) s.first || Nat.blt s.last (r.apply r.first)
    || ((r.step == 2 || r.first == r.last) && s.step == 2 && decide (0 ≤ r.first + r.offset)
      && (r.apply r.first + s.first) % 2 == 1)

theorem apply_le_apply (r : CaseRun) {m n : Nat} (h : m ≤ n) : r.apply m ≤ r.apply n := by
  unfold apply
  omega

theorem bounds_of_has {r : CaseRun} {n : Nat} (h : r.has n = true) :
    r.first ≤ n ∧ n ≤ r.last ∧ (n - r.first) % r.step = 0 := by
  simpa [has, and_assoc] using h

theorem not_has_of_misses {r s : CaseRun} {n : Nat} (h : r.misses s = true) (hn : r.has n = true) :
    s.has (r.apply n) = false := by
  obtain ⟨hfirst, hlast, hstep⟩ := bounds_of_has hn
  have low := r.apply_le_apply hfirst
  have high := r.apply_le_apply hlast
  rw [Bool.eq_false_iff]
  intro hs
  obtain ⟨hs_first, hs_last, hs_step⟩ := bounds_of_has hs
  simp only [misses, Bool.or_eq_true, Bool.and_eq_true, Nat.blt_eq, decide_eq_true_eq,
    beq_iff_eq] at h
  rcases h with (before | after) | ⟨⟨⟨hr, htwo⟩, hpos⟩, hodd⟩
  · omega
  · omega
  · -- the points of both runs are two apart, and the two runs start an odd distance apart
    rw [htwo] at hs_step
    have heven : (n - r.first) % 2 = 0 := by
      rcases hr with hr | hr
      · rwa [hr] at hstep
      · omega
    unfold apply at *
    omega

end CaseRun

/-- The code points that no letter of the table has for its lower case: the blanks, the dotted
capital I, and those that are no characters. -/
def strangeRuns : List CaseRun :=
  [⟨0x9, 0xD, 1, 0⟩, ⟨0x1C, 0x20, 1, 0⟩, ⟨0x85, 0x85, 1, 0⟩, ⟨0xA0, 0xA0, 1, 0⟩,
   ⟨0x1680, 0x1680, 1, 0⟩, ⟨0x2000, 0x200A, 1, 0⟩, ⟨0x2028, 0x2029, 1, 0⟩, ⟨0x202F, 0x202F, 1, 0⟩,
   ⟨0x205F, 0x205F, 1, 0⟩, ⟨0x3000, 0x3000, 1, 0⟩, ⟨0x130, 0x130, 1, 0⟩, ⟨0xD800, 0xDFFF, 1, 0⟩]

theorem lowerRuns_misses :
    (lowerRuns.all fun r => (lowerRuns ++ strangeRuns).all r.misses) = true := by
  decide +kernel

theorem lowerRuns_apart :
    ∀ r ∈ lowerRuns, ∀ s ∈ strangeRuns, r.last < s.first ∨ s.last < r.first := by
  decide +kernel

theorem lowerRuns_apply_lt : ∀ r ∈ lowerRuns, r.apply r.last < 0x110000 := by
  decide +kernel

/-- The lower case of a letter of the table is no letter of the table, nor any strange one. -/
theorem not_has_apply {r s : CaseRun} {n : Nat} (hr : r ∈ lowerRuns)
    (hs : s ∈ lowerRuns ++ strangeRuns) (hn : r.has n = true) : s.has (r.apply n) = false :=
  CaseRun.not_has_of_misses
    (List.all_eq_true.mp (List.all_eq_true.mp lowerRuns_misses r hr) s hs) hn

theorem strange_of_isBlank {c : Char} (h : isBlank c = true) :
    ∃ s ∈ strangeRuns, s.has c.toNat = true := by
  simp only [isBlank, Bool.or_eq_true, Bool.and_eq_true, decide_eq_true_eq, beq_iff_eq] at h
  simp only [strangeRuns, List.mem_cons, List.not_mem_nil, or_false, exists_eq_or_imp,
    exists_eq_left, CaseRun.has, Nat.mod_one, Bool.and_eq_true, decide_eq_true_eq,
    beq_self_eq_true, and_true]
  omega

/-! ## Characters -/

/-- The character is its own lower case. -/
def IsLower (c : Char) : Prop := lowerChar c = [c]

theorem isLower_of_not_has {c : Char} (hdot : c ≠ 'İ')
    (h : ∀ r ∈ lowerRuns, r.has c.toNat = false) : IsLower c := by
  unfold IsLower lowerChar
  have none : lowerRuns.find? (·.has c.toNat) = none := by simpa using h
  rw [if_neg hdot, none]

theorem isLower_of_isBlank {c : Char} (h : isBlank c = true) : IsLower c := by
  obtain ⟨s, hs, hc⟩ := strange_of_isBlank h
  apply isLower_of_not_has
  · rintro rfl
    exact absurd h (by decide)
  · intro r hr
    rw [Bool.eq_false_iff]
    intro hhas
    obtain ⟨r_first, r_last, -⟩ := CaseRun.bounds_of_has hhas
    obtain ⟨s_first, s_last, -⟩ := CaseRun.bounds_of_has hc
    have apart := lowerRuns_apart r hr s hs
    omega

/-- The code point that a run maps to is that of a character. -/
theorem toNat_apply {r : CaseRun} {n : Nat} (hr : r ∈ lowerRuns) (hn : r.has n = true) :
    (Char.ofNat (r.apply n)).toNat = r.apply n := by
  have bound := lowerRuns_apply_lt r hr
  have high := r.apply_le_apply (CaseRun.bounds_of_has hn).2.1
  have surrogates := not_has_apply (s := ⟨0xD800, 0xDFFF, 1, 0⟩) hr
    (List.mem_append_right _ (by simp [strangeRuns])) hn
  simp only [CaseRun.has, Nat.mod_one, beq_self_eq_true, Bool.and_true, Bool.and_eq_false_iff,
    decide_eq_false_iff_not] at surrogates
  have valid : (r.apply n).isValidChar := by
    unfold Nat.isValidChar
    omega
  unfold Char.ofNat
  rw [dif_pos valid]
  rfl

/-- The lower case of a character is the dotted i in two, the character itself, or the one that
its run maps it to. -/
theorem lowerChar_cases (c : Char) :
    c = 'İ' ∧ lowerChar c = ['i', '\u0307'] ∨ IsLower c ∨
      ∃ r ∈ lowerRuns, r.has c.toNat = true ∧ lowerChar c = [Char.ofNat (r.apply c.toNat)] := by
  unfold IsLower lowerChar
  by_cases hdot : c = 'İ'
  · exact Or.inl ⟨hdot, if_pos hdot⟩
  · rw [if_neg hdot]
    cases hfind : lowerRuns.find? (·.has c.toNat) with
    | none => exact Or.inr (Or.inl rfl)
    | some r =>
      have hhas : r.has c.toNat = true :=
        List.find?_some (p := fun r : CaseRun => r.has c.toNat) hfind
      exact Or.inr (Or.inr ⟨r, List.mem_of_find?_eq_some hfind, hhas, rfl⟩)

theorem isLower_dotted : IsLower 'i' ∧ IsLower '\u0307' := by
  unfold IsLower
  decide +kernel

theorem isLower_finalSigma : IsLower 'ς' := by
  unfold IsLower
  decide +kernel

theorem not_isLower_sigma : ¬ IsLower 'Σ' := by
  unfold IsLower
  decide +kernel

theorem isLower_of_mem_lowerChar {c d : Char} (h : c ∈ lowerChar d) : IsLower c := by
  rcases lowerChar_cases d with ⟨-, hd⟩ | hd | ⟨r, hr, hhas, hd⟩
  · rw [hd] at h
    rcases List.mem_cons.mp h with rfl | h
    · exact isLower_dotted.1
    · rw [List.mem_singleton.mp h]
      exact isLower_dotted.2
  · have same : lowerChar d = [d] := hd
    rw [same, List.mem_singleton] at h
    rw [h]
    exact hd
  · rw [hd, List.mem_singleton] at h
    have code : c.toNat = r.apply d.toNat := by rw [h, toNat_apply hr hhas]
    apply isLower_of_not_has
    · rintro rfl
      have dotted := not_has_apply (s := ⟨0x130, 0x130, 1, 0⟩) hr
        (List.mem_append_right _ (by simp [strangeRuns])) hhas
      rw [← code] at dotted
      exact absurd dotted (by decide)
    · intro s hs
      rw [code]
      exact not_has_apply hr (List.mem_append_left _ hs) hhas

theorem lowerChar_ne_nil (c : Char) : lowerChar c ≠ [] := by
  rcases lowerChar_cases c with ⟨-, hc⟩ | hc | ⟨r, -, -, hc⟩
  · simp [hc]
  · have same : lowerChar c = [c] := hc
    simp [same]
  · simp [hc]

/-- No letter becomes a blank. -/
theorem isBlank_of_mem_lowerChar {c d : Char} (hd : isBlank d = false) (h : c ∈ lowerChar d) :
    isBlank c = false := by
  rcases lowerChar_cases d with ⟨-, hcase⟩ | hcase | ⟨r, hr, hhas, hcase⟩
  · rw [hcase] at h
    rcases List.mem_cons.mp h with rfl | h
    · decide
    · rw [List.mem_singleton.mp h]
      decide
  · have same : lowerChar d = [d] := hcase
    rw [same, List.mem_singleton] at h
    rw [h]
    exact hd
  · rw [hcase, List.mem_singleton] at h
    have code : c.toNat = r.apply d.toNat := by rw [h, toNat_apply hr hhas]
    rw [Bool.eq_false_iff]
    intro blank
    obtain ⟨s, hs, hc⟩ := strange_of_isBlank blank
    rw [code, not_has_apply hr (List.mem_append_right _ hs) hhas] at hc
    cases hc

/-- A letter of the table has another lower case. -/
theorem not_has_of_isLower {c : Char} (h : IsLower c) {r : CaseRun} (hr : r ∈ lowerRuns) :
    r.has c.toNat = false := by
  rw [Bool.eq_false_iff]
  intro hhas
  have hdot : c ≠ 'İ' := by
    rintro rfl
    exact absurd h (by unfold IsLower; decide)
  obtain ⟨s, hfind⟩ : ∃ s, lowerRuns.find? (·.has c.toNat) = some s :=
    Option.isSome_iff_exists.mp (List.find?_isSome.mpr ⟨r, hr, hhas⟩)
  have hs : s.has c.toNat = true :=
    List.find?_some (p := fun r : CaseRun => r.has c.toNat) hfind
  have hmem := List.mem_of_find?_eq_some hfind
  unfold IsLower lowerChar at h
  rw [if_neg hdot, hfind, List.singleton_inj] at h
  have again := not_has_apply hmem (List.mem_append_left _ hmem) hs
  rw [← toNat_apply hmem hs, h, hs] at again
  cases again

theorem asciiLowerChar_of_isLower {c : Char} (h : IsLower c) : asciiLowerChar c = c := by
  unfold asciiLowerChar
  split
  · next capital =>
    have bounds : 0x41 ≤ c.toNat ∧ c.toNat ≤ 0x5A := capital
    have hfirst : (⟨0x41, 0x5A, 1, 32⟩ : CaseRun) ∈ lowerRuns := List.mem_cons_self
    have hhas := not_has_of_isLower h hfirst
    simp [CaseRun.has, Nat.mod_one, bounds] at hhas
  · rfl

/-! ## Texts -/

theorem lowerFrom_eq_self (afterCased : Bool) {cs : List Char} (h : ∀ c ∈ cs, IsLower c) :
    lowerFrom afterCased cs = cs := by
  induction cs generalizing afterCased with
  | nil => rfl
  | cons c rest ih =>
    have hc : IsLower c := h c List.mem_cons_self
    have hsigma : c ≠ 'Σ' := by
      rintro rfl
      exact not_isLower_sigma hc
    have same : lowerChar c = [c] := hc
    simp only [lowerFrom, hsigma, decide_false, Bool.false_and, Bool.false_eq_true, if_false, same]
    rw [ih _ fun d hd => h d (List.mem_cons_of_mem c hd)]
    rfl

/-- What one character comes to where it stands. -/
structure LowerOf (c : Char) (here : List Char) : Prop where
  ne_nil : here ≠ []
  isLower : ∀ d ∈ here, IsLower d
  isBlank : isBlank c = false → ∀ d ∈ here, isBlank d = false

theorem lowerOf_lowerChar (c : Char) : LowerOf c (lowerChar c) :=
  ⟨lowerChar_ne_nil c, fun _ => isLower_of_mem_lowerChar, fun hc _ => isBlank_of_mem_lowerChar hc⟩

theorem lowerOf_finalSigma (c : Char) : LowerOf c ['ς'] := by
  refine ⟨List.cons_ne_nil _ _, ?_, ?_⟩
  · intro d hd
    rw [List.mem_singleton.mp hd]
    exact isLower_finalSigma
  · intro _ d hd
    rw [List.mem_singleton.mp hd]
    decide

/-- A character comes to its own lower case wherever it stands, but for the sigma. -/
theorem lowerFrom_cons_cases (afterCased : Bool) (c : Char) (rest : List Char) :
    ∃ after, lowerFrom afterCased (c :: rest) = lowerChar c ++ lowerFrom after rest ∨
      c = 'Σ' ∧ lowerFrom afterCased (c :: rest) = 'ς' :: lowerFrom after rest := by
  refine ⟨if isCaseIgnorable c then afterCased else isCased c, ?_⟩
  rw [lowerFrom]
  split
  · next final =>
    simp only [Bool.and_eq_true, decide_eq_true_eq] at final
    exact Or.inr ⟨final.1.1, rfl⟩
  · exact Or.inl rfl

theorem exists_lowerFrom_cons (afterCased : Bool) (c : Char) (rest : List Char) :
    ∃ here after, lowerFrom afterCased (c :: rest) = here ++ lowerFrom after rest ∧
      LowerOf c here := by
  obtain ⟨after, heq | ⟨-, heq⟩⟩ := lowerFrom_cons_cases afterCased c rest
  · exact ⟨_, after, heq, lowerOf_lowerChar c⟩
  · exact ⟨['ς'], after, heq, lowerOf_finalSigma c⟩

theorem isLower_of_mem_lowerFrom (afterCased : Bool) (cs : List Char) :
    ∀ c ∈ lowerFrom afterCased cs, IsLower c := by
  induction cs generalizing afterCased with
  | nil =>
    intro c hc
    cases hc
  | cons d rest ih =>
    intro c hc
    obtain ⟨here, after, heq, hhere⟩ := exists_lowerFrom_cons afterCased d rest
    rw [heq] at hc
    rcases List.mem_append.mp hc with hc | hc
    · exact hhere.isLower c hc
    · exact ih after c hc

theorem lowerChars_lowerChars (cs : List Char) : lowerChars (lowerChars cs) = lowerChars cs :=
  lowerFrom_eq_self false (isLower_of_mem_lowerFrom false cs)

theorem lower_lower (s : String) : lower (lower s) = lower s := by
  unfold lower
  rw [String.toList_ofList, lowerChars_lowerChars]

theorem asciiLower_lower (s : String) : asciiLower (lower s) = lower s := by
  have same : ∀ c ∈ lowerChars s.toList, asciiLowerChar c = c := by
    intro c hc
    exact asciiLowerChar_of_isLower (isLower_of_mem_lowerFrom false s.toList c hc)
  unfold asciiLower lower
  rw [String.toList_ofList, List.map_congr_left same, List.map_id']

/-! ## The ends of a text -/

theorem lowerFrom_ne_nil (afterCased : Bool) {cs : List Char} (h : cs ≠ []) :
    lowerFrom afterCased cs ≠ [] := by
  obtain ⟨c, rest, rfl⟩ := List.exists_cons_of_ne_nil h
  obtain ⟨here, after, heq, hhere⟩ := exists_lowerFrom_cons afterCased c rest
  rw [heq]
  exact List.append_ne_nil_of_left_ne_nil hhere.ne_nil _

theorem head?_lowerFrom (afterCased : Bool) {cs : List Char}
    (h : ∀ c, cs.head? = some c → isBlank c = false) :
    ∀ d, (lowerFrom afterCased cs).head? = some d → isBlank d = false := by
  intro d hd
  cases cs with
  | nil => cases hd
  | cons c rest =>
    obtain ⟨here, after, heq, hhere⟩ := exists_lowerFrom_cons afterCased c rest
    obtain ⟨x, more, rfl⟩ := List.exists_cons_of_ne_nil hhere.ne_nil
    rw [heq] at hd
    cases hd
    exact hhere.isBlank (h c rfl) d List.mem_cons_self

theorem getLast?_lowerFrom (afterCased : Bool) {cs : List Char}
    (h : ∀ c, cs.getLast? = some c → isBlank c = false) :
    ∀ d, (lowerFrom afterCased cs).getLast? = some d → isBlank d = false := by
  induction cs generalizing afterCased with
  | nil =>
    intro d hd
    cases hd
  | cons c rest ih =>
    intro d hd
    obtain ⟨here, after, heq, hhere⟩ := exists_lowerFrom_cons afterCased c rest
    rw [heq] at hd
    cases rest with
    | nil =>
      rw [lowerFrom, List.append_nil] at hd
      exact hhere.isBlank (h c rfl) d (List.mem_of_getLast? hd)
    | cons c' rest' =>
      have hlast : ∃ x, (lowerFrom after (c' :: rest')).getLast? = some x :=
        Option.ne_none_iff_exists'.mp fun hnone =>
          lowerFrom_ne_nil after (List.cons_ne_nil c' rest') (List.getLast?_eq_none_iff.mp hnone)
      obtain ⟨x, hx⟩ := hlast
      rw [List.getLast?_append, hx, Option.some_or] at hd
      cases hd
      exact ih _ (fun y hy => h y (by rwa [List.getLast?_cons_cons])) d hx

theorem trim_lower_trim (s : String) : trim (lower (trim s)) = lower (trim s) := by
  have starts : ∀ c, (trimChars isBlank s.toList).head? = some c → isBlank c = false :=
    fun _ => head?_trimChars
  have stops : ∀ c, (trimChars isBlank s.toList).getLast? = some c → isBlank c = false :=
    fun _ => getLast?_trimChars
  have first := head?_lowerFrom false starts
  have last := getLast?_lowerFrom false stops
  unfold trim lower lowerChars
  rw [String.toList_ofList, String.toList_ofList, trimChars_eq_self first last]

/-! ## Addresses -/

theorem normalizeEmail_normalizeEmail (s : String) :
    normalizeEmail (normalizeEmail s) = normalizeEmail s := by
  unfold normalizeEmail
  rw [trim_lower_trim, lower_lower]

theorem asciiLower_normalizeEmail (s : String) :
    asciiLower (normalizeEmail s) = normalizeEmail s :=
  asciiLower_lower (trim s)

end AccountPortal

import AccountPortal.Proofs.Base64Url.Grammar

/-!
# The canonical form of a canonical form

A canonical form starts with no blank, ends with no padding and has no letter of the other alphabet
(`IsCanonical`), so when it is brought to canonical form again only the blanks at its end can go,
and the padding before them:

    canonicalChars? cs = some d → IsCanonical d                 (isCanonical_of_canonicalChars?)
    IsCanonical d → (canonicalChars? d = some d ↔ d ≠ [] ∧ EndsSolid d)
                                                               (canonicalChars?_eq_self_iff)

Blanks stand at its end where they stood before the padding: padding is dropped after the trimming,
and what it uncovers is not trimmed. A text of nothing but padding has an empty canonical form, and
that has none. For all other texts the form is final (`canonical_form_is_final_iff`).
-/

namespace AccountPortal.Base64Url

/-- No blank stands at the end. -/
def EndsSolid (cs : List Char) : Prop := ∀ c, cs.getLast? = some c → isBlank c = false

/-! ## What a canonical form looks like -/

structure IsCanonical (d : List Char) : Prop where
  first : ∀ c, d.head? = some c → isBlank c = false
  letters : ∀ c ∈ d, canonicalChar c = c
  last : d.getLast? ≠ some '='

theorem isBlank_canonicalChar (c : Char) : isBlank (canonicalChar c) = isBlank c := by
  unfold canonicalChar
  split_ifs with plus slash
  · subst plus
    decide
  · subst slash
    decide
  · rfl

theorem canonicalChar_canonicalChar (c : Char) :
    canonicalChar (canonicalChar c) = canonicalChar c := by
  unfold canonicalChar
  split_ifs <;> simp_all

theorem map_eq_self {d : List Char} (letters : ∀ c ∈ d, canonicalChar c = c) :
    d.map canonicalChar = d := by
  rw [List.map_congr_left letters, List.map_id']

theorem dropPadding_isPrefix (cs : List Char) : dropPadding cs <+: cs :=
  List.rdropWhile_prefix (· = '=') cs

theorem rdropWhile_isPrefix (cs : List Char) : cs.rdropWhile isBlank <+: cs :=
  List.rdropWhile_prefix isBlank cs

theorem dropPadding_eq_self {d : List Char} (last : d.getLast? ≠ some '=') : dropPadding d = d := by
  have bare := dropPadding_append last 0
  rwa [List.replicate_zero, List.append_nil] at bare

theorem head?_of_prefix {a b : List Char} {c : Char} (h : a <+: b) (hc : a.head? = some c) :
    b.head? = some c := by
  obtain ⟨rest, rfl⟩ := h
  rw [List.head?_append, hc, Option.some_or]

theorem isCanonical_of_canonicalChars? {cs d : List Char} (h : canonicalChars? cs = some d) :
    IsCanonical d := by
  have hd : dropPadding ((trimChars isBlank cs).map canonicalChar) = d := by
    unfold canonicalChars? at h
    dsimp only at h
    split at h
    · cases h
    · exact Option.some.inj h
  have whole : d <+: (trimChars isBlank cs).map canonicalChar := hd ▸ dropPadding_isPrefix _
  refine { first := ?_, letters := ?_, last := hd ▸ getLast?_dropPadding _ }
  · intro c hc
    have head := head?_of_prefix whole hc
    rw [List.head?_map] at head
    obtain ⟨x, hx, rfl⟩ := Option.map_eq_some_iff.1 head
    rw [isBlank_canonicalChar]
    exact head?_trimChars hx
  · intro c hc
    obtain ⟨x, -, rfl⟩ := List.mem_map.1 (whole.subset hc)
    exact canonicalChar_canonicalChar x

/-! ## Once more -/

/-- Nothing is trimmed at the start of a canonical form. -/
theorem trimChars_of_isCanonical {d : List Char} (h : IsCanonical d) :
    trimChars isBlank d = d.rdropWhile isBlank := by
  show (d.dropWhile isBlank).rdropWhile isBlank = _
  rw [dropWhile_eq_self h.first]

theorem canonicalChars?_of_isCanonical {d e : List Char} (h : IsCanonical d)
    (he : canonicalChars? d = some e) : e = dropPadding (d.rdropWhile isBlank) := by
  have letters : ∀ c ∈ d.rdropWhile isBlank, canonicalChar c = c :=
    fun c hc => h.letters c ((rdropWhile_isPrefix d).subset hc)
  unfold canonicalChars? at he
  dsimp only at he
  rw [trimChars_of_isCanonical h, map_eq_self letters] at he
  split at he
  · cases he
  · exact (Option.some.inj he).symm

/-- A second canonical form is cut out of the first. -/
theorem prefix_of_isCanonical {d e : List Char} (h : IsCanonical d)
    (he : canonicalChars? d = some e) : e <+: d := by
  rw [canonicalChars?_of_isCanonical h he]
  exact (dropPadding_isPrefix _).trans (rdropWhile_isPrefix d)

theorem canonicalChars?_eq_self {d : List Char} (h : IsCanonical d) (filled : d ≠ [])
    (solid : EndsSolid d) : canonicalChars? d = some d := by
  have trimmed : trimChars isBlank d = d := trimChars_eq_self h.first solid
  have hne : d.isEmpty = false := by simpa using filled
  unfold canonicalChars?
  simp only [trimmed, hne, map_eq_self h.letters, dropPadding_eq_self h.last, Bool.false_eq_true,
    if_false]

/-- If nothing is cut off, then no blank, for the padding before it would go with it. -/
theorem canonicalChars?_eq_self_iff {d : List Char} (h : IsCanonical d) :
    canonicalChars? d = some d ↔ d ≠ [] ∧ EndsSolid d := by
  constructor
  · intro again
    refine ⟨?_, ?_⟩
    · rintro rfl
      cases again
    · -- both cuts leave the whole text, so trimming alone does
      have cut := canonicalChars?_of_isCanonical h again
      have whole : d <+: d.rdropWhile isBlank := by
        conv_lhs => rw [cut]
        exact dropPadding_isPrefix _
      have kept : d.rdropWhile isBlank = d :=
        (rdropWhile_isPrefix d).eq_of_length_le whole.length_le
      intro c hc
      rw [← kept, List.rdropWhile, List.getLast?_reverse] at hc
      exact head?_dropWhile hc
  · rintro ⟨filled, solid⟩
    exact canonicalChars?_eq_self h filled solid

/-! ## Texts -/

variable {v : Value} {s t : String}

theorem isCanonical_of_canonical? (h : canonical? v = some s) : IsCanonical s.toList := by
  cases v with
  | text u =>
    obtain ⟨d, hd, rfl⟩ := Option.map_eq_some_iff.1 h
    rw [String.toList_ofList]
    exact isCanonical_of_canonicalChars? hd
  | _ => cases h

theorem canonical?_text_iff : canonical? (.text s) = some t ↔
    canonicalChars? s.toList = some t.toList := by
  show (canonicalChars? s.toList).map String.ofList = some t ↔ _
  rw [Option.map_eq_some_iff]
  constructor
  · rintro ⟨d, hd, rfl⟩
    rw [hd, String.toList_ofList]
  · intro h
    exact ⟨t.toList, h, String.ofList_toList⟩

theorem canonical?_again_iff (h : canonical? v = some s) :
    canonical? (.text s) = some s ↔ s ≠ "" ∧ EndsSolid s.toList := by
  rw [canonical?_text_iff, canonicalChars?_eq_self_iff (isCanonical_of_canonical? h), Ne,
    String.toList_eq_nil_iff]

theorem identifier?_eq_some_iff : identifier? v = some s ↔ canonical? v = some s ∧ s ≠ "" := by
  unfold identifier?
  rw [Option.filter_eq_some_iff, bne_iff_ne]

/-- An identifier that does not end in a blank is its own. -/
theorem identifier?_again (h : identifier? v = some s) (solid : EndsSolid s.toList) :
    identifier? (.text s) = some s := by
  obtain ⟨canonical, filled⟩ := identifier?_eq_some_iff.1 h
  exact identifier?_eq_some_iff.2 ⟨(canonical?_again_iff canonical).2 ⟨filled, solid⟩, filled⟩

/-- No text with a blank inside. -/
def Compact : Value → Prop
  | .text s => ∀ c ∈ trimChars isBlank s.toList, isBlank c = false
  | _ => True

-- by the letters of the text, for an instance that goes through all of Unicode may be there too
instance : DecidablePred Compact
  | .text s => List.decidableBAll (isBlank · = false) (trimChars isBlank s.toList)
  | .null | .flag _ | .int _ | .number _ | .list _ | .record _ => isTrue trivial

theorem Compact.endsSolid (h : Compact v) (hv : canonical? v = some s) : EndsSolid s.toList := by
  cases v with
  | text u =>
    have filled : trimChars isBlank u.toList ≠ [] := by
      intro blank
      simp [canonical?, canonicalChars?, blank] at hv
    rw [canonical?_text filled, Option.some.injEq] at hv
    rw [← hv, String.toList_ofList]
    intro c hc
    obtain ⟨x, hx, rfl⟩ := List.mem_map.1 (List.mem_of_getLast? hc)
    rw [isBlank_canonicalChar]
    exact h x ((dropPadding_isPrefix _).subset hx)
  | _ => cases hv

/-- What stands before the padding of a text ends as its canonical form does. -/
theorem endsSolid_map_canonicalChar {cs : List Char} :
    EndsSolid (cs.map canonicalChar) ↔ EndsSolid cs := by
  unfold EndsSolid
  rw [List.getLast?_map]
  constructor
  · intro h c hc
    rw [← isBlank_canonicalChar]
    exact h _ (by rw [hc, Option.map_some])
  · intro h c hc
    obtain ⟨x, hx, rfl⟩ := Option.map_eq_some_iff.1 hc
    rw [isBlank_canonicalChar]
    exact h x hx

/-- A second canonical form of a text, in terms of what stands before its padding. -/
theorem canonical?_twice_text_iff (h : trimChars isBlank s.toList ≠ []) :
    canonical? (Value.ofOption .text (canonical? (.text s))) = canonical? (.text s) ↔
      dropPadding (trimChars isBlank s.toList) ≠ [] ∧
        EndsSolid (dropPadding (trimChars isBlank s.toList)) := by
  have once := canonical?_text h
  generalize dropPadding (trimChars isBlank s.toList) = body at once
  rw [once]
  show canonical? (.text (String.ofList (body.map canonicalChar))) = _ ↔ _
  rw [canonical?_again_iff once, String.toList_ofList, endsSolid_map_canonicalChar, Ne,
    String.ofList_eq_empty_iff, List.map_eq_nil_iff]

/-! ## Every value -/

/-- The canonical form of a value is its own canonical form, nothing that of nothing, unless the
value is a text in which, trimmed, nothing stands before the padding or a blank does. The canonical
form of any canonical form is a beginning of it. -/
theorem canonical_form_is_final_iff (v : Value) :
    (canonical? (Value.ofOption .text (canonical? v)) = canonical? v ↔
      ∀ s, v = .text s → trimChars isBlank s.toList ≠ [] →
        dropPadding (trimChars isBlank s.toList) ≠ [] ∧
          ∀ c, (dropPadding (trimChars isBlank s.toList)).getLast? = some c →
            isBlank c = false) ∧
    ∀ s t, canonical? v = some s → canonical? (.text s) = some t → t.toList <+: s.toList := by
  constructor
  · cases v with
    | text s =>
      by_cases blank : trimChars isBlank s.toList = []
      · have none : canonical? (.text s) = none := by simp [canonical?, canonicalChars?, blank]
        rw [none]
        refine iff_of_true rfl ?_
        rintro _ ⟨⟩ filled
        exact absurd blank filled
      · rw [canonical?_twice_text_iff blank]
        constructor
        · rintro h _ ⟨⟩ -
          exact h
        · intro h
          exact h s rfl blank
    | _ => exact iff_of_true rfl fun s hs => by cases hs
  · intro s t once twice
    exact prefix_of_isCanonical (isCanonical_of_canonical? once) (canonical?_text_iff.1 twice)

/-- Padding and a blank inside the text do no harm. -/
theorem canonical_form_of_inner_padding_is_final :
    canonical? (.text " a= b+==\n") = some "a= b-" ∧ canonical? (.text "a= b-") = some "a= b-" := by
  have once : canonical? (.text " a= b+==\n") = some "a= b-" := by decide
  have body : dropPadding (trimChars isBlank " a= b+==\n".toList) = "a= b+".toList := by decide
  have final := (canonical_form_is_final_iff (.text " a= b+==\n")).1.mpr (by
    rintro _ ⟨⟩ -
    rw [body]
    refine ⟨by decide, ?_⟩
    rintro c ⟨⟩
    decide)
  rw [once] at final
  exact ⟨once, final⟩

/-- A blank before the padding is trimmed by the second round only, and padding alone leaves an
empty text, which has no canonical form. -/
theorem canonical_form_of_blank_before_padding :
    canonical? (.text "a =") = some "a " ∧ canonical? (.text "a ") = some "a" ∧
      canonical? (.text "====") = some "" ∧ canonical? (.text "") = none ∧
      ¬ ∀ v, canonical? (Value.ofOption .text (canonical? v)) = canonical? v := by
  have once : canonical? (.text "a =") = some "a " := by decide
  have twice : canonical? (.text "a ") = some "a" := by decide
  refine ⟨once, twice, by decide, by decide, fun final => ?_⟩
  have same := final (.text "a =")
  rw [once] at same
  exact absurd (twice.symm.trans same) (by decide)

end AccountPortal.Base64Url

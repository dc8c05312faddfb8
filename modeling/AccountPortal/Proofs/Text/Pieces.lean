import AccountPortal.Text.Blank
import AccountPortal.Text.Segments
import Mathlib.Data.List.DropRight

/-!
# Text put together and taken apart

Characters of a class around a text are lost on trimming (`trimChars_around`), and every text is what
trimming leaves of it with such characters around (`exists_around_trimChars`). Behind a part without
such characters only the far end is trimmed (`trimChars_append`). Texts that do not hold the separator
are the segments of what is made of them:

    segments sep (a ++ sep :: rest) = a :: segments sep rest                   (segments_cut)
    List.intercalate [sep] (segments sep cs) = cs                      (intercalate_segments)
    cutAt sep (before ++ sep :: after) = some (before, after)                  (cutAt_append)
    segments ';' (String.intercalate "; " (s :: texts)).toList
      = s.toList :: texts.map (' ' :: ·.toList)                              (segments_intercalate)
-/

namespace AccountPortal

/-! ## Both ends of a list -/

section Ends

variable {p : Char → Bool} {before cs after : List Char}

theorem rdropWhile_append (hafter : ∀ c ∈ after, p c = true)
    (last : ∀ c, cs.getLast? = some c → p c = false) : (cs ++ after).rdropWhile p = cs := by
  rw [List.rdropWhile, List.reverse_append,
    List.dropWhile_append_of_pos (by simpa using hafter), dropWhile_eq_self, List.reverse_reverse]
  intro c h
  exact last c (by rwa [List.head?_reverse] at h)

theorem trimChars_around (hbefore : ∀ c ∈ before, p c = true) (hafter : ∀ c ∈ after, p c = true) :
    trimChars p (before ++ cs ++ after) = trimChars p cs := by
  rw [trimChars, trimChars, List.append_assoc, List.dropWhile_append_of_pos hbefore,
    List.dropWhile_append]
  split
  · next none => rw [List.isEmpty_iff.mp none, List.dropWhile_eq_nil_iff.mpr hafter]
  · rw [List.reverse_append, List.dropWhile_append_of_pos (by simpa using hafter)]

theorem trimChars_between (hbefore : ∀ c ∈ before, p c = true) (hafter : ∀ c ∈ after, p c = true)
    (first : ∀ c, cs.head? = some c → p c = false)
    (last : ∀ c, cs.getLast? = some c → p c = false) :
    trimChars p (before ++ cs ++ after) = cs := by
  rw [trimChars_around hbefore hafter, trimChars_eq_self first last]

theorem exists_around_trimChars (p : Char → Bool) (cs : List Char) :
    ∃ before after, cs = before ++ trimChars p cs ++ after ∧ (∀ c ∈ before, p c = true) ∧
      ∀ c ∈ after, p c = true := by
  refine ⟨cs.takeWhile p, (cs.dropWhile p).rtakeWhile p, ?_, fun _ => List.mem_takeWhile_imp,
    fun _ => List.mem_rtakeWhile_imp⟩
  have inner : trimChars p cs ++ (cs.dropWhile p).rtakeWhile p = cs.dropWhile p :=
    List.rdropWhile_append_rtakeWhile
  rw [List.append_assoc, inner, List.takeWhile_append_dropWhile]

/-- Behind a text that holds none of the class only the far end is trimmed. -/
theorem trimChars_append (hcs : cs ≠ []) (solid : ∀ c ∈ cs, p c = false) (rest : List Char) :
    trimChars p (cs ++ rest) = cs ++ rest.rdropWhile p := by
  have cut : [] ++ (cs ++ rest.rdropWhile p) ++ rest.rtakeWhile p = cs ++ rest := by
    rw [List.nil_append, List.append_assoc, List.rdropWhile_append_rtakeWhile]
  rw [← cut]
  apply trimChars_between (by simp) (fun _ => List.mem_rtakeWhile_imp)
  · intro c h
    rw [List.head?_append_of_ne_nil _ hcs] at h
    exact solid c (List.mem_of_head? h)
  · intro c h
    rw [List.getLast?_append, Option.or_eq_some_iff] at h
    rcases h with h | ⟨-, h⟩
    · rw [List.rdropWhile, List.getLast?_reverse] at h
      exact head?_dropWhile h
    · exact solid c (List.mem_of_getLast? h)

theorem mem_of_mem_trimChars {c : Char} (h : c ∈ trimChars p cs) : c ∈ cs := by
  obtain ⟨before, after, hcs, -, -⟩ := exists_around_trimChars p cs
  rw [hcs]
  exact List.mem_append_left _ (List.mem_append_right _ h)

end Ends

/-! ## Separators -/

section Separators

variable {sep : Char} {cs : List Char}

theorem segments_of_not_mem (h : sep ∉ cs) : segments sep cs = [cs] := by
  induction cs with
  | nil => rfl
  | cons c rest ih =>
    rw [List.mem_cons, not_or] at h
    rw [segments, if_neg (Ne.symm h.1), ih h.2]

theorem segments_cut (h : sep ∉ cs) (rest : List Char) :
    segments sep (cs ++ sep :: rest) = cs :: segments sep rest := by
  rw [segments_append, segments_of_not_mem h, List.singleton_append]

/-- No segment holds the separator, and with it between them the segments are the text. -/
theorem intercalate_segments (sep : Char) (cs : List Char) :
    List.intercalate [sep] (segments sep cs) = cs ∧ ∀ s ∈ segments sep cs, sep ∉ s := by
  induction cs with
  | nil => simp [segments]
  | cons c rest ih =>
    obtain ⟨joined, free⟩ := ih
    obtain ⟨s, more, hrest⟩ := List.exists_cons_of_ne_nil (segments_ne_nil sep rest)
    rw [hrest] at joined free
    obtain ⟨hs, hmore⟩ := List.forall_mem_cons.mp free
    rw [segments, hrest]
    split
    · next hc =>
      refine ⟨?_, List.forall_mem_cons.mpr ⟨List.not_mem_nil, free⟩⟩
      rw [List.intercalate_cons_cons, joined, hc]
      rfl
    · next hc =>
      refine ⟨?_, List.forall_mem_cons.mpr ⟨?_, hmore⟩⟩
      · rw [← joined]
        cases more <;> simp [List.intercalate]
      · rw [List.mem_cons, not_or]
        exact ⟨Ne.symm hc, hs⟩

/-- Text of three segments has the separator twice. -/
theorem segments_eq_three_iff {a b c : List Char} :
    segments sep cs = [a, b, c] ↔
      cs = a ++ sep :: (b ++ sep :: c) ∧ sep ∉ a ∧ sep ∉ b ∧ sep ∉ c := by
  constructor
  · intro h
    obtain ⟨joined, free⟩ := intercalate_segments sep cs
    rw [h] at joined free
    refine ⟨?_, free a (by simp), free b (by simp), free c (by simp)⟩
    rw [← joined]
    simp [List.intercalate]
  · rintro ⟨rfl, ha, hb, hc⟩
    rw [segments_cut ha, segments_cut hb, segments_of_not_mem hc]

theorem cutAt_of_not_mem (h : sep ∉ cs) : cutAt sep cs = none := by
  induction cs with
  | nil => rfl
  | cons c rest ih =>
    rw [List.mem_cons, not_or] at h
    rw [cutAt, if_neg (Ne.symm h.1), ih h.2]
    rfl

theorem cutAt_append (h : sep ∉ cs) (after : List Char) :
    cutAt sep (cs ++ sep :: after) = some (cs, after) := by
  induction cs with
  | nil => rw [List.nil_append, cutAt, if_pos rfl]
  | cons c rest ih =>
    rw [List.mem_cons, not_or] at h
    rw [List.cons_append, cutAt, if_neg (Ne.symm h.1), ih h.2]
    rfl

theorem eq_of_cutAt {before after : List Char} (h : cutAt sep cs = some (before, after)) :
    cs = before ++ sep :: after := by
  induction cs generalizing before with
  | nil => cases h
  | cons c rest ih =>
    rw [cutAt] at h
    split at h
    · next same =>
      cases h
      rw [same, List.nil_append]
    · obtain ⟨⟨inner, outer⟩, hrest, heq⟩ := Option.map_eq_some_iff.mp h
      cases heq
      rw [ih hrest, List.cons_append]

/-- Texts with a separator and a blank between them are cut before the blanks. -/
theorem segments_intercalate {s : String} {texts : List String}
    (h : ∀ t ∈ s :: texts, ';' ∉ t.toList) :
    segments ';' (String.intercalate "; " (s :: texts)).toList
      = s.toList :: texts.map fun t => ' ' :: t.toList := by
  induction texts generalizing s with
  | nil => rw [String.intercalate_singleton, List.map_nil, segments_of_not_mem (h s (by simp))]
  | cons t rest ih =>
    obtain ⟨hs, hrest⟩ := List.forall_mem_cons.1 h
    have joined : (String.intercalate "; " (s :: t :: rest)).toList =
        s.toList ++ ';' :: ' ' :: (String.intercalate "; " (t :: rest)).toList := by
      rw [String.intercalate_cons_cons, String.toList_append, String.toList_append,
        List.append_assoc]
      rfl
    have blank (cs : List Char) : segments ';' (' ' :: cs) =
        (segments ';' cs).modifyHead (' ' :: ·) := by
      rw [segments, if_neg (by decide)]
      cases hcut : segments ';' cs with
      | nil => exact absurd hcut (segments_ne_nil ';' cs)
      | cons first more => rfl
    rw [joined, segments_cut hs, blank, ih hrest, List.modifyHead_cons, List.map_cons]

end Separators

end AccountPortal

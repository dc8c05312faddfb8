import AccountPortal.Proofs.Credential.Cookie

/-!
# Headers of cookies

What a header gives is put together from what its segments give, and of two segments with one name
the later stands:

    parse (first ++ ";" ++ second) = (parse first).merge (parse second)              (parse_append)
    parse (String.intercalate ";" texts) = (texts.map parse).foldl Fields.merge [] (parse_intercalate)

A segment by itself gives one cookie or none: blanks around it do not count (`parse_around`), it is
cut at its first equals sign (`parse_of_trim`), and without one, or without a name before it, it
gives nothing (`parse_of_unassigned`).
-/

namespace AccountPortal.Cookie

/-! ## Segments one after another -/

/-- What the segments of a header give, in their order. -/
def entries (header : String) : Fields String := (segments ';' header.toList).filterMap ofSegment?

theorem parse_eq_merge (header : String) : parse header = Fields.merge [] (entries header) := rfl

theorem entries_append (first second : String) :
    entries (first ++ ";" ++ second) = entries first ++ entries second := by
  have cut : (first ++ ";" ++ second).toList = first.toList ++ ';' :: second.toList := by
    rw [String.toList_append, String.toList_append, List.append_assoc]
    rfl
  rw [entries, cut, segments_append, List.filterMap_append]
  rfl

theorem nodup_names_parse (header : String) : ((parse header).map Prod.fst).Nodup :=
  Fields.nodup_names_merge Fields.nodup_names_nil (entries header)

/-- What a header gives may be put over others at once or segment by segment. -/
theorem merge_parse (fields : Fields String) (header : String) :
    fields.merge (parse header) = fields.merge (entries header) :=
  Fields.merge_assoc fields Fields.nodup_names_nil (entries header)

theorem parse_append (first second : String) :
    parse (first ++ ";" ++ second) = (parse first).merge (parse second) := by
  rw [merge_parse, parse_eq_merge, entries_append, Fields.merge_append, ← parse_eq_merge]

theorem get?_parse_append (first second name : String) :
    (parse (first ++ ";" ++ second)).get? name =
      ((parse second).get? name).or ((parse first).get? name) := by
  rw [parse_append, Fields.get?_merge _ (nodup_names_parse second)]

theorem merge_parse_intercalate (fields : Fields String) (text : String) (texts : List String) :
    fields.merge (parse (String.intercalate ";" (text :: texts))) =
      ((text :: texts).map parse).foldl Fields.merge fields := by
  induction texts generalizing fields text with
  | nil => rw [String.intercalate_singleton]; rfl
  | cons next rest ih =>
    rw [String.intercalate_cons_cons, parse_append, Fields.merge_assoc _ (nodup_names_parse text),
      ih]
    rfl

theorem parse_intercalate (texts : List String) :
    parse (String.intercalate ";" texts) = (texts.map parse).foldl Fields.merge [] := by
  cases texts with
  | nil => rfl
  | cons text rest => rw [← merge_parse_intercalate, merge_parse, ← parse_eq_merge]

/-! ## One segment -/

section Segment

variable {text : String} (unseparated : ';' ∉ text.toList)
include unseparated

theorem parse_of_not_mem : parse text = (ofSegment? text.toList).toList := by
  rw [parse_eq_merge, entries, segments_of_not_mem unseparated]
  cases h : ofSegment? text.toList with
  | none => rw [List.filterMap_cons_none h]; rfl
  | some e => rw [List.filterMap_cons_some h]; rfl

theorem parse_of_unassigned (unassigned : '=' ∉ text.toList) : parse text = [] := by
  have trimmed : '=' ∉ trimChars isBlank text.toList :=
    fun there => unassigned (mem_of_mem_trimChars there)
  rw [parse_of_not_mem unseparated, ofSegment?, cutAt_of_not_mem trimmed]
  rfl

theorem parse_of_trim {name raw : String} (trimmed : trim text = name ++ "=" ++ raw)
    (unassigned : '=' ∉ name.toList) :
    parse text = if name = "" then [] else [(name, percentDecode raw)] := by
  have chars : trimChars isBlank text.toList = name.toList ++ '=' :: raw.toList := by
    rw [← String.toList_inj, trim, String.toList_ofList, String.toList_append, String.toList_append,
      List.append_assoc] at trimmed
    exact trimmed
  rw [parse_of_not_mem unseparated, ofSegment?_of_trimChars chars unassigned]
  by_cases empty : name = ""
  · rw [if_pos empty, if_pos (String.toList_eq_nil_iff.mpr empty)]
    rfl
  · rw [if_neg empty, if_neg (mt String.toList_eq_nil_iff.mp empty), String.ofList_toList]
    rfl

theorem parse_around {before after : String} (hbefore : ∀ c ∈ before.toList, isBlank c = true)
    (hafter : ∀ c ∈ after.toList, isBlank c = true) :
    parse (before ++ text ++ after) = parse text := by
  have still : ';' ∉ (before ++ text ++ after).toList := by
    rw [String.toList_append, String.toList_append, List.mem_append, List.mem_append]
    rintro ((there | there) | there)
    · exact absurd (hbefore _ there) (by decide)
    · exact unseparated there
    · exact absurd (hafter _ there) (by decide)
  have same : ofSegment? (before ++ text ++ after).toList = ofSegment? text.toList := by
    rw [ofSegment?, ofSegment?, String.toList_append, String.toList_append,
      trimChars_around hbefore hafter]
  rw [parse_of_not_mem still, parse_of_not_mem unseparated, same]

end Segment

/-! ## Headers and segments -/

/-- Two headers with a semicolon between them give what the first gives with what the second gives
put over it, and so do any number of texts. A text without semicolons gives nothing when it has no
equals sign or no name before the first, and else one cookie, whose value is decoded from all that
follows the sign; it gives the same with blanks around it. -/
theorem headers_are_read_segment_by_segment :
    (∀ first second : String,
      parse (first ++ ";" ++ second) = (parse first).merge (parse second) ∧
      ∀ name, (parse (first ++ ";" ++ second)).get? name =
        ((parse second).get? name).or ((parse first).get? name)) ∧
    (∀ texts : List String,
      parse (String.intercalate ";" texts) = (texts.map parse).foldl Fields.merge []) ∧
    ∀ text : String, ';' ∉ text.toList →
      ('=' ∉ text.toList → parse text = []) ∧
      (∀ name raw, trim text = name ++ "=" ++ raw → '=' ∉ name.toList →
        parse text = if name = "" then [] else [(name, percentDecode raw)]) ∧
      ∀ before after : String, (∀ c ∈ before.toList, isBlank c = true) →
        (∀ c ∈ after.toList, isBlank c = true) → parse (before ++ text ++ after) = parse text := by
  refine ⟨fun first second => ⟨parse_append first second, get?_parse_append first second⟩,
    parse_intercalate, fun text unseparated => ⟨parse_of_unassigned unseparated, ?_, ?_⟩⟩
  · intro name raw trimmed unassigned
    exact parse_of_trim unseparated trimmed unassigned
  · intro before after hbefore hafter
    exact parse_around unseparated hbefore hafter

/-- A name given again with more equals signs and blanks around it, after segments that give
nothing. -/
theorem later_value_of_one_name :
    parse "\u3000a=d=%41 " = [("a", "d=A")] ∧
      parse ("a=1; b=2" ++ ";" ++ String.intercalate ";" ["=x", "c", "\u3000a=d=%41 "]) =
        [("a", "d=A"), ("b", "2")] := by
  obtain ⟨append, join, segment⟩ := headers_are_read_segment_by_segment
  obtain ⟨-, cut, around⟩ := segment "a=d=%41" (by decide)
  have before : ∀ c ∈ "\u3000".toList, isBlank c = true := List.forall_mem_singleton.mpr rfl
  have after : ∀ c ∈ " ".toList, isBlank c = true := List.forall_mem_singleton.mpr rfl
  have again : parse "\u3000a=d=%41 " = [("a", "d=A")] :=
    (around "\u3000" " " before after).trans
      ((cut "a" "d=%41" (by decide) (by decide)).trans (by decide))
  have unnamed : parse "=x" = [] :=
    (segment "=x" (by decide)).2.1 "" "x" (by decide) (by decide)
  have unassigned : parse "c" = [] := (segment "c" (by decide)).1 (by decide)
  refine ⟨again, ?_⟩
  rw [(append _ _).1, join, List.map_cons, List.map_cons, List.map_cons, again, unnamed, unassigned]
  decide

end AccountPortal.Cookie

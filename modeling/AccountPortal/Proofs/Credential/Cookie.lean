import AccountPortal.Credential.Cookie
import AccountPortal.Proofs.Fields
import AccountPortal.Proofs.Text.Percent
import AccountPortal.Proofs.Text.Pieces

/-!
# Cookies are read back

A cookie is cut into its name with the escaped value, and its attributes, whatever the value holds
(`segments_encode`). Cookies of different names, written one after another, are read as the names
with their values (`parse_header`):

    segments ';' (encode name value maxAge secure).toList
      = (pair name value).toList :: (attributeList secure maxAge).map (' ' :: ·.toList)
    parse (String.intercalate "; " (cookies.map fun e => pair e.1 e.2)) = cookies
-/

namespace AccountPortal

namespace Cookie

/-- A name that stands as it is in a header. -/
structure IsName (name : String) : Prop where
  filled : name ≠ ""
  unseparated : ';' ∉ name.toList
  unassigned : '=' ∉ name.toList
  trimmed : trim name = name

instance (name : String) : Decidable (IsName name) :=
  decidable_of_iff (name ≠ "" ∧ ';' ∉ name.toList ∧ '=' ∉ name.toList ∧ trim name = name)
    ⟨fun ⟨a, b, c, d⟩ => ⟨a, b, c, d⟩, fun ⟨a, b, c, d⟩ => ⟨a, b, c, d⟩⟩

theorem IsName.toList_ne_nil {name : String} (h : IsName name) : name.toList ≠ [] :=
  fun none => h.filled (String.toList_eq_nil_iff.1 none)

/-- A name and its escaped value, as a header has them. -/
def pair (name value : String) : String := name ++ "=" ++ percentEncode value

def attributeList (secure : Bool) (maxAge : Int) : List String :=
  ["Path=/", "HttpOnly", "SameSite=Lax"] ++ (if secure then ["Secure"] else [])
    ++ ["Max-Age=" ++ toString maxAge]

/-! ## A cookie and its attributes -/

theorem toList_percentEncode (value : String) :
    (percentEncode value).toList = percentEncodeChars value.toList :=
  String.toList_ofList

theorem escaped_percentEncode (value : String) : Escaped (percentEncode value).toList := by
  rw [toList_percentEncode]
  exact escaped_percentEncodeChars _

theorem toList_pair (name value : String) :
    (pair name value).toList = name.toList ++ '=' :: (percentEncode value).toList := by
  simp only [pair, String.toList_append, List.append_assoc]
  rfl

/-- A trimmed segment is cut at its first equals sign, and gives nothing when no name stands before
it. -/
theorem ofSegment?_of_trimChars {segment name raw : List Char}
    (trimmed : trimChars isBlank segment = name ++ '=' :: raw) (unassigned : '=' ∉ name) :
    ofSegment? segment =
      if name = [] then none
      else some (String.ofList name, String.ofList (percentDecodeChars raw)) := by
  rw [ofSegment?, trimmed, cutAt_append unassigned]
  cases name <;> rfl

section Pair

variable {name : String} (h : IsName name) (value : String)
include h

theorem not_mem_pair : ';' ∉ (pair name value).toList := by
  rw [toList_pair, List.mem_append, List.mem_cons]
  rintro (inName | inSign | inValue)
  · exact h.unseparated inName
  · cases inSign
  · exact ((escaped_percentEncode value).solid _ inValue).1 rfl

/-- A name neither starts nor ends with a blank, and no value holds one. -/
theorem trimChars_pair (blanks : List Char) (hblanks : ∀ c ∈ blanks, isBlank c = true) :
    trimChars isBlank (blanks ++ (pair name value).toList) = (pair name value).toList := by
  have trimmed : trimChars isBlank name.toList = name.toList := by
    conv_rhs => rw [← h.trimmed, trim, String.toList_ofList]
  rw [toList_pair]
  have first : ∀ c, (name.toList ++ '=' :: (percentEncode value).toList).head? = some c →
      isBlank c = false := by
    intro c hc
    rw [List.head?_append_of_ne_nil _ h.toList_ne_nil, ← trimmed] at hc
    exact head?_trimChars hc
  have last : ∀ c, (name.toList ++ '=' :: (percentEncode value).toList).getLast? = some c →
      isBlank c = false := by
    intro c hc
    rw [List.getLast?_append_of_ne_nil _ (List.cons_ne_nil _ _)] at hc
    rcases List.mem_cons.1 (List.mem_of_getLast? hc) with rfl | inValue
    · decide
    · exact ((escaped_percentEncode value).solid c inValue).2.2
  rw [← List.append_nil (blanks ++ _)]
  exact trimChars_between hblanks (by simp) first last

/-- A segment of a header, whatever blanks stand before it. -/
theorem ofSegment?_pair (blanks : List Char) (hblanks : ∀ c ∈ blanks, isBlank c = true) :
    ofSegment? (blanks ++ (pair name value).toList) = some (name, value) := by
  have trimmed : trimChars isBlank (blanks ++ (pair name value).toList) =
      name.toList ++ '=' :: (percentEncode value).toList := by
    rw [trimChars_pair h value blanks hblanks, toList_pair]
  have decoded : percentDecodeChars (percentEncode value).toList = value.toList := by
    rw [toList_percentEncode, percentDecodeChars_percentEncodeChars]
  rw [ofSegment?_of_trimChars trimmed h.unassigned, if_neg h.toList_ne_nil, decoded,
    String.ofList_toList, String.ofList_toList]

end Pair

theorem not_mem_toString (n : Int) : ';' ∉ (toString n).toList := by
  have digits (m : Nat) : ';' ∉ m.repr.toList := by
    rw [Nat.toList_repr]
    intro mem
    exact absurd (Nat.isDigit_of_mem_toDigits (by decide) (by decide) mem) (by decide)
  cases n with
  | ofNat m => exact digits m
  | negSucc m =>
    show ';' ∉ ("-" ++ (m + 1).repr).toList
    rw [String.toList_append, List.mem_append]
    rintro (sign | digit)
    · exact absurd sign (by decide)
    · exact digits _ digit

theorem not_mem_attributeList {secure : Bool} {maxAge : Int} {a : String}
    (ha : a ∈ attributeList secure maxAge) : ';' ∉ a.toList := by
  have fixed : ∀ a ∈ ["Path=/", "HttpOnly", "SameSite=Lax", "Secure"], ';' ∉ a.toList := by decide
  rw [attributeList, List.mem_append, List.mem_append, List.mem_singleton] at ha
  rcases ha with (ha | ha) | rfl
  · exact fixed a (List.mem_append_left ["Secure"] ha)
  · split at ha
    · exact fixed a (List.mem_append_right ["Path=/", "HttpOnly", "SameSite=Lax"] ha)
    · cases ha
  · rw [String.toList_append, List.mem_append]
    rintro (label | digits)
    · exact absurd label (by decide)
    · exact not_mem_toString maxAge digits

theorem encode_eq_intercalate (name value : String) (maxAge : Int) (secure : Bool) :
    encode name value maxAge secure
      = String.intercalate "; " (pair name value :: attributeList secure maxAge) := by
  have fixed : attributes secure maxAge =
      "; " ++ String.intercalate "; " (attributeList secure maxAge) := by
    -- the digits stay closed: opening them is what makes the comparison slow
    unfold attributes attributeList
    generalize toString maxAge = age
    cases secure <;> simp [String.intercalate_cons_cons, ← String.toList_inj]
  obtain ⟨first, more, list⟩ := List.exists_cons_of_ne_nil
    (show attributeList secure maxAge ≠ [] by simp [attributeList])
  rw [encode, fixed, list, String.intercalate_cons_cons, ← String.append_assoc]
  rfl

/-- Whatever the value holds, a cookie is its name with escaped text and the attributes. -/
theorem segments_encode {name : String} (h : IsName name) (value : String) (maxAge : Int)
    (secure : Bool) :
    segments ';' (encode name value maxAge secure).toList
      = (pair name value).toList :: (attributeList secure maxAge).map fun a => ' ' :: a.toList := by
  rw [encode_eq_intercalate, segments_intercalate]
  exact List.forall_mem_cons.2 ⟨not_mem_pair h value, fun _ ha => not_mem_attributeList ha⟩

/-! ## A header of cookies -/

theorem parse_header {cookies : List (String × String)} (names : ∀ e ∈ cookies, IsName e.1)
    (distinct : (cookies.map Prod.fst).Nodup) :
    parse (String.intercalate "; " (cookies.map fun e => pair e.1 e.2)) = cookies := by
  cases cookies with
  | nil => rfl
  | cons e rest =>
    obtain ⟨hname, hnames⟩ := List.forall_mem_cons.1 names
    have cut : segments ';'
        (String.intercalate "; " ((e :: rest).map fun e => pair e.1 e.2)).toList =
        (pair e.1 e.2).toList :: rest.map fun e => ' ' :: (pair e.1 e.2).toList := by
      rw [List.map_cons, segments_intercalate, List.map_map]
      · rfl
      · rw [← List.map_cons (f := fun e : String × String => pair e.1 e.2)]
        exact List.forall_mem_map.2 fun x hx => not_mem_pair (names x hx) x.2
    have first : ofSegment? (pair e.1 e.2).toList = some e :=
      ofSegment?_pair hname e.2 [] (by simp)
    have others : (rest.map fun e => ' ' :: (pair e.1 e.2).toList).filterMap ofSegment? = rest := by
      rw [List.filterMap_map]
      have all : ∀ x ∈ rest, (ofSegment? ∘ fun e => ' ' :: (pair e.1 e.2).toList) x = some x :=
        fun x hx => ofSegment?_pair (hnames x hx) x.2 [' '] (by simp [isBlank])
      rw [List.filterMap_congr all, List.filterMap_some]
    rw [parse, cut, List.filterMap_cons, first, others]
    exact Fields.merge_of_nodup [] distinct

/-! ## Round trip -/

/-- A cookie is cut into its name with its escaped value, and its attributes with a blank before
each, so nothing in the value starts a segment of its own; and of cookies that are written one after
another under different names, each name is read with its value and nothing else is. -/
theorem cookies_are_cut_and_read :
    (∀ name value maxAge secure, IsName name →
      Escaped (percentEncode value).toList ∧
      segments ';' (encode name value maxAge secure).toList =
        (name ++ "=" ++ percentEncode value).toList ::
          (["Path=/", "HttpOnly", "SameSite=Lax"] ++ (if secure then ["Secure"] else [])
            ++ ["Max-Age=" ++ toString maxAge]).map fun a => ' ' :: a.toList) ∧
    ∀ cookies : List (String × String), (∀ e ∈ cookies, IsName e.1) →
      (cookies.map Prod.fst).Nodup →
      parse (String.intercalate "; "
        (cookies.map fun e => e.1 ++ "=" ++ percentEncode e.2)) = cookies := by
  constructor
  · intro name value maxAge secure h
    exact ⟨escaped_percentEncode value, segments_encode h value maxAge secure⟩
  · intro cookies names distinct
    exact parse_header names distinct

/-- A value of separators and blanks, beside an empty one and one beyond ASCII. -/
theorem separators_stay_in_the_value :
    (segments ';' (encode "sid" "a; b=\x0d\x0a%41" (-1) true).toList).length = 6 ∧
      parse (String.intercalate "; " ([("sid", "a; b=\x0d\x0a%41"), ("a b", ""), ("é", "ü€")].map
        fun e => e.1 ++ "=" ++ percentEncode e.2))
        = [("sid", "a; b=\x0d\x0a%41"), ("a b", ""), ("é", "ü€")] := by
  obtain ⟨cut, read⟩ := cookies_are_cut_and_read
  constructor
  · have sid : IsName "sid" := by decide
    rw [(cut "sid" "a; b=\x0d\x0a%41" (-1) true sid).2]
    rfl
  · refine read _ ?_ (by decide)
    exact List.forall_mem_cons.2 ⟨by decide, List.forall_mem_cons.2 ⟨by decide,
      List.forall_mem_singleton.2 (by decide)⟩⟩

end Cookie

end AccountPortal

/-!
# Segments

Text cut at every occurrence of a character. Main definitions: `segments`, `cutAt`; main statement:
a text cut at a separator that stands in it is cut on either side (`segments_append`).
-/

namespace AccountPortal

/-- Never empty: a text without the separator is one segment. -/
def segments (sep : Char) : List Char → List (List Char)
  | [] => [[]]
  | c :: rest =>
    if c = sep then [] :: segments sep rest
    else match segments sep rest with
      | [] => [[c]]
      | s :: more => (c :: s) :: more

/-- What stands before the first occurrence and after it; nothing when there is none. -/
def cutAt (sep : Char) : List Char → Option (List Char × List Char)
  | [] => none
  | c :: rest =>
    if c = sep then some ([], rest)
    else (cutAt sep rest).map fun (before, after) => (c :: before, after)

theorem segments_ne_nil (sep : Char) (cs : List Char) : segments sep cs ≠ [] := by
  cases cs with
  | nil => simp [segments]
  | cons c rest =>
    simp only [segments]
    split
    · simp
    · split <;> simp

theorem segments_append (sep : Char) (a b : List Char) :
    segments sep (a ++ sep :: b) = segments sep a ++ segments sep b := by
  induction a with
  | nil => simp [segments]
  | cons c rest ih =>
    simp only [List.cons_append, segments]
    split
    · rw [ih, List.cons_append]
    · rw [ih]
      cases h : segments sep rest with
      | nil => exact absurd h (segments_ne_nil sep rest)
      | cons s more => rfl

end AccountPortal

/-!
# Blank characters

The white space of Unicode together with the four information separators. Main definitions:
`isBlank`, `trim`; main statements: what is left after trimming neither starts nor ends with what
was trimmed (`head?_trimChars`, `getLast?_trimChars`), and such text is left as it is
(`trimChars_eq_self`).
-/

namespace AccountPortal

def isBlank (c : Char) : Bool :=
  let n := c.toNat
  0x9 ≤ n && n ≤ 0xD || 0x1C ≤ n && n ≤ 0x20 || n == 0x85 || n == 0xA0 || n == 0x1680
    || 0x2000 ≤ n && n ≤ 0x200A || n == 0x2028 || n == 0x2029 || n == 0x202F || n == 0x205F
    || n == 0x3000

/-- White space proper: the information separators are not in it. -/
def isWhiteSpace (c : Char) : Bool := isBlank c && !(0x1C ≤ c.toNat && c.toNat ≤ 0x1F)

/-- Drops characters of a class at both ends. -/
def trimChars (p : Char → Bool) (cs : List Char) : List Char :=
  ((cs.dropWhile p).reverse.dropWhile p).reverse

theorem dropWhile_eq_self {p : Char → Bool} {cs : List Char}
    (h : ∀ c, cs.head? = some c → p c = false) : cs.dropWhile p = cs := by
  cases cs with
  | nil => rfl
  | cons c rest => simp [h c rfl]

theorem head?_dropWhile {p : Char → Bool} {cs : List Char} {c : Char}
    (h : (cs.dropWhile p).head? = some c) : p c = false := by
  have := List.head?_dropWhile_not p cs
  simpa [h] using this

theorem trimChars_prefix (p : Char → Bool) (cs : List Char) :
    trimChars p cs <+: cs.dropWhile p := by
  have h : (cs.dropWhile p).reverse.dropWhile p <:+ (cs.dropWhile p).reverse :=
    List.dropWhile_suffix p
  simpa [trimChars] using List.reverse_prefix.2 h

theorem head?_trimChars {p : Char → Bool} {cs : List Char} {c : Char}
    (h : (trimChars p cs).head? = some c) : p c = false := by
  obtain ⟨t, ht⟩ := trimChars_prefix p cs
  have : (cs.dropWhile p).head? = some c := by rw [← ht, List.head?_append, h, Option.some_or]
  exact head?_dropWhile this

theorem getLast?_trimChars {p : Char → Bool} {cs : List Char} {c : Char}
    (h : (trimChars p cs).getLast? = some c) : p c = false := by
  rw [trimChars, List.getLast?_reverse] at h
  exact head?_dropWhile h

theorem trimChars_eq_self {p : Char → Bool} {cs : List Char}
    (first : ∀ c, cs.head? = some c → p c = false)
    (last : ∀ c, cs.getLast? = some c → p c = false) : trimChars p cs = cs := by
  rw [trimChars, dropWhile_eq_self first, dropWhile_eq_self, List.reverse_reverse]
  intro c h
  exact last c (by rwa [List.head?_reverse] at h)

def trim (s : String) : String := String.ofList (trimChars isBlank s.toList)

end AccountPortal

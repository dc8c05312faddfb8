import AccountPortal.Credential.DeviceId
import AccountPortal.Proofs.Text.AsciiCase
import AccountPortal.Proofs.Text.Pieces

/-!
# Device ids stay as they are

A node id has a device id when it is blanks, a phone mark in either case and a rest that comes to six
letters of an id or more:

    deviceIdChars? cs = some r ↔ ∃ before mark rest, cs = before ++ mark ++ rest ∧
      (∀ c ∈ before, isBlank c = true) ∧ mark.map asciiLowerChar ∈ phoneMarks ∧
      r = idLetters rest ∧ 6 ≤ r.length                             (deviceIdChars?_eq_some_iff)

The letters of the rest are those of its characters, each lower-cased by itself (`idLetters`): the
blanks that trimming takes from the end have none, and of a sigma neither small form is one.
-/

namespace AccountPortal

/-- What a device id is made of. -/
def idAlphabet : List Char := "abcdefghijklmnopqrstuvwxyz0123456789".toList

/-- The letters of an id that the characters of a text come to. -/
def idLetters (cs : List Char) : List Char := (cs.flatMap lowerChar).filter (· ∈ idAlphabet)

/-! ## Letters -/

theorem idAlphabet_checked :
    (idAlphabet.all fun c => c.toNat < 0x80 && !isBlank c && asciiLowerChar c == c) = true := by
  decide +kernel

theorem facts_of_mem_idAlphabet {c : Char} (h : c ∈ idAlphabet) :
    c.toNat < 0x80 ∧ isBlank c = false ∧ asciiLowerChar c = c := by
  simpa [and_assoc] using List.all_eq_true.mp idAlphabet_checked c h

theorem isIdLetter_eq (c : Char) : isIdLetter c = decide (c ∈ idAlphabet) := by
  by_cases ascii : c.toNat < 0x80
  · have checked : ∀ n < 0x80,
        isIdLetter (Char.ofNat n) = decide (Char.ofNat n ∈ idAlphabet) := by
      decide +kernel
    exact forall_ascii (P := fun c => isIdLetter c = decide (c ∈ idAlphabet)) checked ascii
  · have other : c ∉ idAlphabet := fun there => ascii (facts_of_mem_idAlphabet there).1
    rw [decide_eq_false other, Bool.eq_false_iff]
    intro letter
    simp only [isIdLetter, Bool.or_eq_true, Bool.and_eq_true, decide_eq_true_eq] at letter
    rcases letter with ⟨-, last⟩ | ⟨-, last⟩
    · have bound : c.toNat ≤ 0x7A := last
      omega
    · have bound : c.toNat ≤ 0x39 := last
      omega

theorem idLetters_append (cs ds : List Char) :
    idLetters (cs ++ ds) = idLetters cs ++ idLetters ds := by
  rw [idLetters, List.flatMap_append, List.filter_append, idLetters, idLetters]

theorem idLetters_cons (c : Char) (cs : List Char) :
    idLetters (c :: cs) = idLetters [c] ++ idLetters cs :=
  idLetters_append [c] cs

theorem idLetters_of_blank {cs : List Char} (h : ∀ c ∈ cs, isBlank c = true) :
    idLetters cs = [] := by
  have same : ∀ c ∈ cs, lowerChar c = [c] := fun c hc => isLower_of_isBlank (h c hc)
  rw [idLetters, List.flatMap_congr same, List.flatMap_singleton', List.filter_eq_nil_iff]
  intro c hc letter
  have solid := (facts_of_mem_idAlphabet (of_decide_eq_true letter)).2.1
  rw [h c hc] at solid
  cases solid

theorem idLetters_eq_self {cs : List Char} (h : ∀ c ∈ cs, c ∈ idAlphabet) : idLetters cs = cs := by
  have same : ∀ c ∈ cs, lowerChar c = [c] := by
    intro c hc
    obtain ⟨ascii, -, own⟩ := facts_of_mem_idAlphabet (h c hc)
    rw [lowerChar_of_ascii ascii, own]
  rw [idLetters, List.flatMap_congr same, List.flatMap_singleton', List.filter_eq_self]
  exact fun c hc => decide_eq_true (h c hc)

theorem mem_idAlphabet_of_mem_idLetters {cs : List Char} {c : Char} (h : c ∈ idLetters cs) :
    c ∈ idAlphabet :=
  of_decide_eq_true (List.mem_filter.mp h).2

theorem filter_isIdLetter_lowerFrom (afterCased : Bool) (cs : List Char) :
    (lowerFrom afterCased cs).filter isIdLetter = idLetters cs := by
  rw [filter_lowerFrom (by decide) (by decide), idLetters]
  exact List.filter_congr fun c _ => isIdLetter_eq c

/-! ## Marks -/

def phoneMarks : List (List Char) := ["ios-".toList, "iphone-".toList]

theorem phoneMarks_checked :
    (phoneMarks.all fun mark => mark != [] && mark.getLast? != some 'i' &&
      mark.all fun d => d.toNat < 0x80 && d != 'k' && !isBlank d) = true := by
  decide +kernel

theorem facts_of_mem_phoneMarks {mark : List Char} (h : mark ∈ phoneMarks) :
    mark ≠ [] ∧ mark.getLast? ≠ some 'i' ∧
      ∀ d ∈ mark, (d.toNat < 0x80 ∧ d ≠ 'k') ∧ isBlank d = false := by
  simpa [and_assoc] using List.all_eq_true.mp phoneMarks_checked mark h

theorem afterPhoneMark?_eq_some_iff {cs rest : List Char} :
    afterPhoneMark? cs = some rest ↔ ∃ mark ∈ phoneMarks, cs = mark ++ rest := by
  unfold afterPhoneMark?
  constructor
  · intro h
    split at h
    · next there =>
      obtain ⟨tail, rfl⟩ := List.isPrefixOf_iff_prefix.mp there
      cases h
      exact ⟨_, List.mem_cons_self, rfl⟩
    · split at h
      · next there =>
        obtain ⟨tail, rfl⟩ := List.isPrefixOf_iff_prefix.mp there
        cases h
        exact ⟨_, List.mem_cons_of_mem _ List.mem_cons_self, rfl⟩
      · cases h
  · rintro ⟨mark, hmark, rfl⟩
    -- neither mark begins with the other, so the one looked for first does not hide the second
    rcases List.mem_pair.mp hmark with rfl | rfl
    · rfl
    · rfl

section Mark

variable {mark : List Char} (hmark : mark.map asciiLowerChar ∈ phoneMarks)
include hmark

theorem ascii_of_mem_mark {c : Char} (h : c ∈ mark) : c.toNat < 0x80 :=
  ascii_of_asciiLowerChar
    ((facts_of_mem_phoneMarks hmark).2.2 _ (List.mem_map_of_mem h)).1.1

theorem isBlank_of_mem_mark {c : Char} (h : c ∈ mark) : isBlank c = false := by
  rw [← isBlank_asciiLowerChar]
  exact ((facts_of_mem_phoneMarks hmark).2.2 _ (List.mem_map_of_mem h)).2

/-- Blanks before the mark, and its case, do not matter. -/
theorem deviceIdChars?_marked {before : List Char} (hbefore : ∀ c ∈ before, isBlank c = true)
    (rest : List Char) :
    deviceIdChars? (before ++ mark ++ rest) =
      if (idLetters rest).length ≥ 6 then some (idLetters rest) else none := by
  have filled : mark ≠ [] := by
    rintro rfl
    exact (facts_of_mem_phoneMarks hmark).1 rfl
  have trimmed : trimChars isBlank (before ++ mark ++ rest) = mark ++ rest.rdropWhile isBlank :=
    calc trimChars isBlank (before ++ mark ++ rest)
        = trimChars isBlank (before ++ (mark ++ rest) ++ []) := by simp
      _ = trimChars isBlank (mark ++ rest) := trimChars_around hbefore (by simp)
      _ = mark ++ rest.rdropWhile isBlank :=
        trimChars_append filled (fun _ => isBlank_of_mem_mark hmark) rest
  have letters : idLetters (rest.rdropWhile isBlank) = idLetters rest := by
    conv_rhs => rw [← List.rdropWhile_append_rtakeWhile (l := rest) (p := isBlank)]
    rw [idLetters_append, idLetters_of_blank fun _ => List.mem_rtakeWhile_imp, List.append_nil]
  obtain ⟨after, lowered⟩ := lowerFrom_ascii_append false (fun _ => ascii_of_mem_mark hmark)
    (rest.rdropWhile isBlank)
  rw [deviceIdChars?, trimmed, lowerChars, lowered,
    afterPhoneMark?_eq_some_iff.mpr ⟨_, hmark, rfl⟩, Option.bind_some]
  simp only [filter_isIdLetter_lowerFrom, letters]

end Mark

theorem deviceIdChars?_eq_some_iff {cs r : List Char} :
    deviceIdChars? cs = some r ↔ ∃ before mark rest, cs = before ++ mark ++ rest ∧
      (∀ c ∈ before, isBlank c = true) ∧ mark.map asciiLowerChar ∈ phoneMarks ∧
      r = idLetters rest ∧ 6 ≤ r.length := by
  constructor
  · intro h
    rw [deviceIdChars?, Option.bind_eq_some_iff] at h
    obtain ⟨lowered, hmark, h⟩ := h
    obtain ⟨mark, known, whole⟩ := afterPhoneMark?_eq_some_iff.mp hmark
    obtain ⟨-, last, plain⟩ := facts_of_mem_phoneMarks known
    obtain ⟨front, rest, after, trimmed, rfl, rfl⟩ :=
      exists_of_lowerFrom_eq_append (fun d hd => (plain d hd).1) last whole
    obtain ⟨before, behind, hcs, hbefore, hbehind⟩ := exists_around_trimChars isBlank cs
    simp only [filter_isIdLetter_lowerFrom] at h
    -- what was trimmed behind belongs to the rest, and adds no letter to it
    have letters : idLetters (rest ++ behind) = idLetters rest := by
      rw [idLetters_append, idLetters_of_blank hbehind, List.append_nil]
    refine ⟨before, front, rest ++ behind, ?_, hbefore, known, ?_⟩
    · rw [hcs, trimmed]
      simp
    · rw [letters]
      split at h
      · next enough =>
        cases h
        exact ⟨rfl, enough⟩
      · cases h
  · rintro ⟨before, mark, rest, rfl, hbefore, hmark, rfl, enough⟩
    rw [deviceIdChars?_marked hmark hbefore, if_pos enough]

/-! ## Characters put in -/

/-- The second text is the first with characters of a class put in anywhere. -/
inductive Inserted (p : Char → Prop) : List Char → List Char → Prop where
  | nil : Inserted p [] []
  | keep (c : Char) {cs ds : List Char} : Inserted p cs ds → Inserted p (c :: cs) (c :: ds)
  | insert {c : Char} {cs ds : List Char} : p c → Inserted p cs ds → Inserted p cs (c :: ds)

/-- The character by itself lower-cases to no letter of an id. -/
def IsSilent (c : Char) : Prop := ∀ d ∈ lowerChars [c], d ∉ idAlphabet

theorem idLetters_of_isSilent {c : Char} (h : IsSilent c) : idLetters [c] = [] := by
  have alone : lowerChars [c] = [c].flatMap lowerChar := by simp [lowerChars, lowerFrom]
  rw [idLetters, ← alone, List.filter_eq_nil_iff]
  exact fun d hd => by simpa using h d hd

theorem idLetters_of_inserted {cs ds : List Char} (h : Inserted IsSilent cs ds) :
    idLetters ds = idLetters cs := by
  induction h with
  | nil => rfl
  | keep c _ ih => rw [idLetters_cons, ih, ← idLetters_cons]
  | insert hc _ ih => rw [idLetters_cons, idLetters_of_isSilent hc, List.nil_append, ih]

/-! ## Texts -/

theorem map_mem_phoneMarks_iff {mark : String} :
    mark.toList.map asciiLowerChar ∈ phoneMarks ↔
      asciiLower mark = "ios-" ∨ asciiLower mark = "iphone-" := by
  have chars (s : String) : asciiLower mark = s ↔ mark.toList.map asciiLowerChar = s.toList := by
    rw [asciiLower, ← String.toList_inj, String.toList_ofList]
  rw [phoneMarks, List.mem_pair, chars, chars]

theorem deviceIdOfNode?_eq_some_iff {s r : String} :
    deviceIdOfNode? (.text s) = some r ↔
      ∃ before mark rest : String, s = before ++ mark ++ rest ∧
        (∀ c ∈ before.toList, isBlank c = true) ∧
        (asciiLower mark = "ios-" ∨ asciiLower mark = "iphone-") ∧
        r.toList = idLetters rest.toList ∧ 6 ≤ r.length := by
  have chars : deviceIdOfNode? (.text s) = some r ↔ deviceIdChars? s.toList = some r.toList := by
    rw [deviceIdOfNode?, Option.map_eq_some_iff]
    constructor
    · rintro ⟨cs, h, rfl⟩
      rw [h, String.toList_ofList]
    · intro h
      exact ⟨_, h, String.ofList_toList⟩
  rw [chars, deviceIdChars?_eq_some_iff]
  constructor
  · rintro ⟨before, mark, rest, hs, hbefore, hmark, letters, enough⟩
    refine ⟨String.ofList before, String.ofList mark, String.ofList rest, ?_, ?_, ?_, ?_, enough⟩
    · rw [← String.toList_inj, hs]
      simp
    · rwa [String.toList_ofList]
    · rwa [← map_mem_phoneMarks_iff, String.toList_ofList]
    · rwa [String.toList_ofList]
  · rintro ⟨before, mark, rest, rfl, hbefore, hmark, letters, enough⟩
    exact ⟨before.toList, mark.toList, rest.toList, by simp, hbefore,
      map_mem_phoneMarks_iff.mpr hmark, letters, enough⟩

theorem isId_of_deviceIdOfNode? {s r : String} (h : deviceIdOfNode? (.text s) = some r) :
    6 ≤ r.length ∧ ∀ c ∈ r.toList, c ∈ idAlphabet := by
  obtain ⟨before, mark, rest, -, -, -, letters, enough⟩ := deviceIdOfNode?_eq_some_iff.mp h
  refine ⟨enough, fun c hc => ?_⟩
  rw [letters] at hc
  exact mem_idAlphabet_of_mem_idLetters hc

section Behind

variable {mark : String} (hmark : asciiLower mark = "ios-" ∨ asciiLower mark = "iphone-")
include hmark

/-- Directly behind a mark the letters of the rest decide. -/
theorem deviceIdOfNode?_append (rest : String) :
    deviceIdOfNode? (.text (mark ++ rest)) =
      if (idLetters rest.toList).length ≥ 6 then some (String.ofList (idLetters rest.toList))
      else none := by
  have marked := deviceIdChars?_marked (map_mem_phoneMarks_iff.mpr hmark)
    (List.forall_mem_nil _) rest.toList
  rw [List.nil_append] at marked
  rw [deviceIdOfNode?, String.toList_append, marked]
  split <;> rfl

theorem deviceIdOfNode?_append_self {r : String} (enough : 6 ≤ r.length)
    (alphabet : ∀ c ∈ r.toList, c ∈ idAlphabet) : deviceIdOfNode? (.text (mark ++ r)) = some r := by
  rw [deviceIdOfNode?_append hmark, idLetters_eq_self alphabet,
    if_pos (show r.toList.length ≥ 6 from enough), String.ofList_toList]

theorem deviceIdOfNode?_append_congr {t u : String} (h : Inserted IsSilent t.toList u.toList) :
    deviceIdOfNode? (.text (mark ++ u)) = deviceIdOfNode? (.text (mark ++ t)) := by
  rw [deviceIdOfNode?_append hmark, deviceIdOfNode?_append hmark, idLetters_of_inserted h]

end Behind

/-- A text gives a device id just when it is blanks, a mark in either case and a rest whose characters
lower-case to six letters of an id or more, which are the id. So an id is made of six letters or more
and is its own id behind either mark; and of any text behind a mark neither the mark matters nor
characters put in that lower-case to no letter of an id. -/
theorem device_ids_are_stable :
    (∀ s r : String, deviceIdOfNode? (.text s) = some r ↔
      ∃ before mark rest : String, s = before ++ mark ++ rest ∧
        (∀ c ∈ before.toList, isBlank c = true) ∧
        (asciiLower mark = "ios-" ∨ asciiLower mark = "iphone-") ∧
        r.toList = idLetters rest.toList ∧ 6 ≤ r.length) ∧
    (∀ s r : String, deviceIdOfNode? (.text s) = some r →
      6 ≤ r.length ∧ (∀ c ∈ r.toList, c ∈ idAlphabet) ∧
      deviceIdOfNode? (.text ("ios-" ++ r)) = some r ∧
      deviceIdOfNode? (.text ("iphone-" ++ r)) = some r) ∧
    (∀ t : String,
      deviceIdOfNode? (.text ("ios-" ++ t)) = deviceIdOfNode? (.text ("iphone-" ++ t))) ∧
    ∀ t u : String, Inserted IsSilent t.toList u.toList →
      deviceIdOfNode? (.text ("ios-" ++ u)) = deviceIdOfNode? (.text ("ios-" ++ t)) ∧
      deviceIdOfNode? (.text ("iphone-" ++ u)) = deviceIdOfNode? (.text ("iphone-" ++ t)) := by
  have ios : asciiLower "ios-" = "ios-" ∨ asciiLower "ios-" = "iphone-" := Or.inl (by decide)
  have iphone : asciiLower "iphone-" = "ios-" ∨ asciiLower "iphone-" = "iphone-" :=
    Or.inr (by decide)
  refine ⟨fun s r => deviceIdOfNode?_eq_some_iff, ?_, ?_, ?_⟩
  · intro s r h
    obtain ⟨enough, alphabet⟩ := isId_of_deviceIdOfNode? h
    exact ⟨enough, alphabet, deviceIdOfNode?_append_self ios enough alphabet,
      deviceIdOfNode?_append_self iphone enough alphabet⟩
  · intro t
    rw [deviceIdOfNode?_append ios, deviceIdOfNode?_append iphone]
  · intro t u inserted
    exact ⟨deviceIdOfNode?_append_congr ios inserted, deviceIdOfNode?_append_congr iphone inserted⟩

/-- The Kelvin sign and the dotted capital I count as letters of an id, the sigma does not, whichever
of its small forms it comes to. -/
theorem device_id_of_kelvin_and_dotted_i :
    deviceIdOfNode? (.text "\u3000IoS-a\u212A-İΣ77b ") = some "aki77b" ∧
      deviceIdOfNode? (.text ("ios-" ++ "aki77b")) = some "aki77b" ∧
      deviceIdOfNode? (.text ("iphone-" ++ "aki77b")) = some "aki77b" ∧
      deviceIdOfNode? (.text ("ios-" ++ "a\u212A-İΣ77bΣ")) =
        deviceIdOfNode? (.text ("ios-" ++ "a\u212Aİ77b")) := by
  obtain ⟨reads, again, -, inserted⟩ := device_ids_are_stable
  have first : deviceIdOfNode? (.text "\u3000IoS-a\u212A-İΣ77b ") = some "aki77b" :=
    (reads _ _).mpr ⟨"\u3000", "IoS-", "a\u212A-İΣ77b ", by decide,
      List.forall_mem_singleton.mpr rfl, Or.inl (by decide), by decide +kernel, by decide⟩
  have dash : IsSilent '-' := by
    have alone : lowerChars ['-'] = ['-'] := by decide +kernel
    rw [IsSilent, alone, List.forall_mem_singleton]
    decide
  have sigma : IsSilent 'Σ' := by
    have alone : lowerChars ['Σ'] = ['σ'] := by decide +kernel
    rw [IsSilent, alone, List.forall_mem_singleton]
    decide
  have letters : "a\u212Aİ77b".toList = ['a', '\u212A', 'İ', '7', '7', 'b'] := by decide
  have more : "a\u212A-İΣ77bΣ".toList = ['a', '\u212A', '-', 'İ', 'Σ', '7', '7', 'b', 'Σ'] := by
    decide
  have put : Inserted IsSilent "a\u212Aİ77b".toList "a\u212A-İΣ77bΣ".toList := by
    rw [letters, more]
    exact .keep _ (.keep _ (.insert dash (.keep _ (.insert sigma
      (.keep _ (.keep _ (.keep _ (.insert sigma .nil))))))))
  obtain ⟨-, -, ios, iphone⟩ := again _ _ first
  exact ⟨first, ios, iphone, (inserted _ _ put).1⟩

end AccountPortal

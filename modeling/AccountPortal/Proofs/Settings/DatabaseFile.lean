import AccountPortal.Portal.Run
import AccountPortal.Proofs.Text.Percent
import AccountPortal.Proofs.Text.Pieces

/-!
# Database files

The parts of a database URL are read one after another, so that the path is a piece of the URL, but
for what is percent-encoded in it (`exists_piece_of_path`). Hence a portal that can be opened keeps
its database in memory only by a URL that names the memory or has a percent sign, and whether races
are held is asked of the parts of the URL alone:

    p.holdsRaces = true ↔ ∃ u, ofText p.settings.databaseUrl = .ok u ∧ ¬ u.staysInMemory
                                                                                  (holdsRaces_iff)
-/

namespace AccountPortal

theorem occursIn_iff {pattern cs : List Char} : occursIn pattern cs = true ↔ pattern <:+: cs := by
  induction cs with
  | nil => simp [occursIn]
  | cons c rest ih =>
    rw [occursIn, Bool.or_eq_true, List.isPrefixOf_iff_prefix, ih, List.infix_cons_iff]

namespace DatabaseUrl

/-! ## Parts -/

theorem eq_of_cutAtLast {sep : Char} {cs before after : List Char}
    (h : cutAtLast sep cs = some (before, after)) : cs = before ++ sep :: after := by
  obtain ⟨⟨inner, outer⟩, hcut, heq⟩ := Option.map_eq_some_iff.mp h
  cases heq
  rw [← List.reverse_reverse cs, eq_of_cutAt hcut]
  simp

theorem upTo_append (stop : Char → Bool) (cs : List Char) :
    (upTo stop cs).1 ++ (upTo stop cs).2 = cs := List.takeWhile_append_dropWhile

theorem upTo_suffix (stop : Char → Bool) (cs : List Char) : (upTo stop cs).2 <:+ cs :=
  List.dropWhile_suffix _

theorem login_suffix (cs : List Char) : (login cs).2.2 <:+ cs := by
  unfold login
  obtain ⟨name, rest, hup, happ⟩ : ∃ name rest,
      upTo (fun c => c == ':' || c == '/') cs = (name, rest) ∧ name ++ rest = cs :=
    ⟨_, _, rfl, upTo_append _ cs⟩
  rw [hup]
  have bare : ∀ user more, cutAtLast '@' name = some (user, more) → more ++ rest <:+ cs := by
    intro user more hcut
    rw [← happ, eq_of_cutAtLast hcut]
    exact ⟨user ++ ['@'], by simp⟩
  have withPassword : ∀ more password after, rest = ':' :: more →
      cutAt '@' more = some (password, after) → after <:+ cs := by
    intro more password after hrest hcut
    rw [← happ, hrest, eq_of_cutAt hcut]
    exact ⟨name ++ ':' :: password ++ ['@'], by simp⟩
  dsimp only
  cases hlast : cutAtLast '@' name with
  | none =>
    split
    · next more =>
      cases hcut : cutAt '@' more with
      | none => exact List.suffix_refl cs
      | some parts => exact withPassword more _ _ rfl hcut
    · exact List.suffix_refl cs
  | some parts =>
    split
    · next more =>
      cases hcut : cutAt '@' more with
      | none => exact bare _ _ hlast
      | some parts => exact withPassword more _ _ rfl hcut
    · exact bare _ _ hlast

theorem hostOf_suffix (cs : List Char) : (hostOf cs).2 <:+ cs := by
  unfold hostOf
  dsimp only
  split
  · next more =>
    split
    · next c host after hcut =>
      have inside := eq_of_cutAtLast hcut
      have whole := upTo_append (fun c => c == '/' || c == '?') more
      rw [inside] at whole
      refine ⟨'[' :: c :: host ++ [']'], ?_⟩
      simpa using congrArg ('[' :: ·) whole
    · exact upTo_suffix _ _
  · exact upTo_suffix _ _

theorem portOf_suffix {cs rest : List Char} {n : Int} (h : portOf cs = .ok (n, rest)) :
    rest <:+ cs := by
  unfold portOf at h
  split at h
  · next more =>
    split at h
    · cases h
    · next digits after _ hup =>
      dsimp only at h
      split at h
      · cases h
        have suffix := upTo_suffix (fun c => c == '/' || c == '?') more
        rw [hup] at suffix
        exact suffix.trans (List.suffix_cons ':' more)
      · cases h
  · cases h
    exact List.suffix_refl _

/-- A path is decoded from a piece of the text. -/
theorem exists_piece_of_pathOf {cs path : List Char} (h : (pathOf cs).1 = some path) :
    ∃ piece, piece <:+: cs ∧ path = percentDecodeChars piece := by
  unfold pathOf at h
  split at h
  · next more =>
    cases h
    refine ⟨(upTo (· == '?') more).1, ?_, rfl⟩
    have piece : (upTo (· == '?') more).1 <+: more := List.takeWhile_prefix _
    exact piece.isInfix.trans (List.suffix_cons '/' more).isInfix
  · cases h

/-- The path of a URL is decoded from a piece of the URL. -/
theorem exists_piece_of_path {url : String} {u : DatabaseUrl} {path : List Char}
    (parsed : ofText url = .ok u) (h : u.path = some path) :
    ∃ piece, piece <:+: url.toList ∧ path = percentDecodeChars piece := by
  unfold ofText at parsed
  have scheme := upTo_suffix (!isSchemeChar ·) url.toList
  dsimp only at parsed
  split at parsed
  · next rest _ hrest =>
    rw [hrest] at scheme
    cases hport : portOf (hostOf (login rest).2.2).2 with
    | error f =>
      rw [hport] at parsed
      cases parsed
    | ok r =>
      obtain ⟨port, after⟩ := r
      rw [hport] at parsed
      cases parsed
      obtain ⟨piece, inside, decoded⟩ := exists_piece_of_pathOf h
      have suffix : after <:+ url.toList :=
        (portOf_suffix hport).trans ((hostOf_suffix _).trans ((login_suffix rest).trans
          ((List.suffix_append [':', '/', '/'] rest).trans scheme)))
      exact ⟨piece, inside.trans suffix.isInfix, decoded⟩
  · cases parsed

/-! ## Databases in memory -/

section memory

variable {url : String} {u : DatabaseUrl}

theorem namesMemory_of_isInMemory (opens : usable url = .ok ()) (parsed : ofText url = .ok u)
    (inMemory : u.isInMemory = true) : namesMemory url = true := by
  by_contra unnamed
  rw [Bool.not_eq_true] at unnamed
  unfold usable at opens
  simp only [parsed, inMemory, unnamed, bind, Except.bind, pure, Except.pure, throw, throwThe,
    MonadExceptOf.throw, Bool.not_false, Bool.and_self, if_true] at opens
  -- whatever is looked at before, the last of the faults is met
  repeat' split at opens
  all_goals cases opens

theorem namesMemory_of_path (parsed : ofText url = .ok u) (plain : '%' ∉ url.toList)
    (inMemory : occursIn memoryPath (u.path.getD []) = true) : namesMemory url = true := by
  cases hpath : u.path with
  | none =>
    rw [hpath] at inMemory
    cases inMemory
  | some path =>
    obtain ⟨piece, inside, decoded⟩ := exists_piece_of_path parsed hpath
    rw [percentDecodeChars_eq_self fun mem => plain (inside.mem mem)] at decoded
    rw [hpath, Option.getD_some, occursIn_iff, decoded] at inMemory
    exact occursIn_iff.mpr (inMemory.trans inside)

/-- A portal that can be opened in memory has a URL that names it, or one that is encoded. -/
theorem namesMemory_of_staysInMemory (opens : usable url = .ok ()) (parsed : ofText url = .ok u)
    (plain : '%' ∉ url.toList) (inMemory : u.staysInMemory = true) : namesMemory url = true := by
  rw [staysInMemory, Bool.or_eq_true, Bool.and_eq_true] at inMemory
  rcases inMemory with byUrl | ⟨-, byPath⟩
  · exact namesMemory_of_isInMemory opens parsed byUrl
  · exact namesMemory_of_path parsed plain byPath

theorem exists_parts_of_usable (opens : usable url = .ok ()) : ∃ u, ofText url = .ok u := by
  cases parsed : ofText url with
  | ok u => exact ⟨u, rfl⟩
  | error f =>
    unfold usable at opens
    rw [parsed] at opens
    cases opens

theorem isOnFile_iff (opens : usable url = .ok ()) :
    isOnFile url = true ↔ ∃ u, ofText url = .ok u ∧ u.staysInMemory = false := by
  obtain ⟨u, parsed⟩ := exists_parts_of_usable opens
  have parts : (∃ u, ofText url = .ok u ∧ u.staysInMemory = false) ↔ u.staysInMemory = false := by
    simp [parsed]
  rw [parts]
  unfold isOnFile
  rw [parsed]
  cases marked : namesMemory url || url.toList.contains '%' with
  | true => simp
  | false =>
    have plain : namesMemory url = false ∧ '%' ∉ url.toList := by simpa using marked
    have onFile : u.staysInMemory = false := by
      by_contra inMemory
      rw [Bool.not_eq_false] at inMemory
      have named := namesMemory_of_staysInMemory opens parsed plain.2 inMemory
      rw [plain.1] at named
      cases named
    simp [onFile]

end memory

end DatabaseUrl

/-- Races are held just where all connections lead to one file. -/
theorem Portal.holdsRaces_iff {p : Portal}
    (opens : DatabaseUrl.usable p.settings.databaseUrl = .ok ()) :
    p.holdsRaces = true ↔
      ∃ u, DatabaseUrl.ofText p.settings.databaseUrl = .ok u ∧ u.staysInMemory = false :=
  DatabaseUrl.isOnFile_iff opens

end AccountPortal

import AccountPortal.Credential.Token
import AccountPortal.Proofs.Digest.Bytes
import AccountPortal.Proofs.Text.Utf8

/-!
# What a wallet reference binds

A reference is the hash of a seed phrase, an account id and the pepper with colons between them, and
of nothing that tells where one text ends and the next begins. With one pepper two pairs of a phrase
and an account are hashed from the same bytes just when they are one text cut at colons, be it the
same or not:

    walletPreimage seed account pepper = walletPreimage seed' account' pepper ↔
      (seed = seed' ∧ account = account') ∨ CutLater seed account seed' account' ∨
        CutLater seed' account' seed account                            (references_agree_iff)

So a pair is bound where neither phrase has a colon, or neither account.
-/

namespace AccountPortal

/-! ## Joined texts -/

/-- Two cuts at the same character are one, or what stands between them has changed sides. -/
theorem append_cons_eq_append_cons_iff {α : Type} {x : α} {a b c d : List α} :
    a ++ x :: b = c ++ x :: d ↔
      (a = c ∧ b = d) ∨ (∃ m, c = a ++ x :: m ∧ b = m ++ x :: d) ∨
        ∃ m, a = c ++ x :: m ∧ d = m ++ x :: b := by
  constructor
  · intro h
    rcases List.append_eq_append_iff.mp h with ⟨m, hc, hb⟩ | ⟨m, ha, hd⟩
    · cases m with
      | nil =>
        rw [List.nil_append, List.cons.injEq] at hb
        exact .inl ⟨by rw [hc, List.append_nil], hb.2⟩
      | cons y m =>
        rw [List.cons_append, List.cons.injEq] at hb
        obtain ⟨rfl, rfl⟩ := hb
        exact .inr (.inl ⟨m, hc, rfl⟩)
    · cases m with
      | nil =>
        rw [List.nil_append, List.cons.injEq] at hd
        exact .inl ⟨by rw [ha, List.append_nil], hd.2.symm⟩
      | cons y m =>
        rw [List.cons_append, List.cons.injEq] at hd
        obtain ⟨rfl, rfl⟩ := hd
        exact .inr (.inr ⟨m, ha, rfl⟩)
  · rintro (⟨rfl, rfl⟩ | ⟨m, rfl, rfl⟩ | ⟨m, rfl, rfl⟩) <;> simp

/-- Two texts with a colon between them. -/
def joined (s t : String) : String := s ++ ":" ++ t

theorem toList_joined (s t : String) : (joined s t).toList = s.toList ++ ':' :: t.toList := by
  simp [joined]

/-- The second pair is the first one's text cut at a later colon: what stands between the two colons
belongs to the account of the first pair and to the phrase of the second. -/
def CutLater (seed account seed' account' : String) : Prop :=
  ∃ between, seed' = joined seed between ∧ account = joined between account'

theorem joined_eq_joined_iff {s t s' t' : String} :
    joined s t = joined s' t' ↔ (s = s' ∧ t = t') ∨ CutLater s t s' t' ∨ CutLater s' t' s t := by
  have later : ∀ s t s' t' : String, CutLater s t s' t' ↔
      ∃ m, s'.toList = s.toList ++ ':' :: m ∧ t.toList = m ++ ':' :: t'.toList := by
    intro s t s' t'
    unfold CutLater
    constructor
    · rintro ⟨between, rfl, rfl⟩
      exact ⟨between.toList, toList_joined _ _, toList_joined _ _⟩
    · rintro ⟨m, hs, ht⟩
      refine ⟨String.ofList m, String.toList_injective ?_, String.toList_injective ?_⟩
      · rw [toList_joined, String.toList_ofList, hs]
      · rw [toList_joined, String.toList_ofList, ht]
  rw [later, later, ← String.toList_inj, toList_joined, toList_joined,
    append_cons_eq_append_cons_iff, String.toList_inj, String.toList_inj]

/-! ## What is hashed -/

theorem utf8_joined (s t : String) : utf8 (joined s t) = utf8 s ++ 0x3A :: utf8 t := by
  have colon : String.utf8EncodeChar ':' = [0x3A] := by decide
  rw [utf8, toList_joined, utf8Chars, List.flatMap_append, List.flatMap_cons, colon]
  rfl

theorem walletPreimage_eq (seed account pepper : String) :
    walletPreimage seed account pepper = utf8 (joined seed account) ++ 0x3A :: utf8 pepper := by
  rw [utf8_joined]
  rfl

/-- The phrase and the account can be told as far as the text can that joins them. -/
theorem walletPreimage_eq_iff {seed account seed' account' pepper : String} :
    walletPreimage seed account pepper = walletPreimage seed' account' pepper ↔
      joined seed account = joined seed' account' := by
  rw [walletPreimage_eq, walletPreimage_eq, List.append_left_inj, Utf8.utf8_injective.eq_iff]

theorem walletReference_eq_iff {seed account pepper seed' account' pepper' : String} :
    walletReference seed account pepper = walletReference seed' account' pepper' ↔
      Sha256.digest (walletPreimage seed account pepper) =
        Sha256.digest (walletPreimage seed' account' pepper') := by
  unfold walletReference
  rw [String.append_right_inj, Bytes.hex_injective.eq_iff]

theorem CutLater.mem_seed {seed account seed' account' : String}
    (h : CutLater seed account seed' account') : ':' ∈ seed'.toList := by
  obtain ⟨between, rfl, -⟩ := h
  simp [toList_joined]

theorem CutLater.mem_account {seed account seed' account' : String}
    (h : CutLater seed account seed' account') : ':' ∈ account.toList := by
  obtain ⟨between, -, rfl⟩ := h
  simp [toList_joined]

/-- With one pepper, two pairs are hashed from the same bytes when they are the same, or one is the
text of the other cut at a later colon, and at no other time; so two pairs are told apart where no
phrase has a colon or no account has one. Where the bytes differ, references agree by a collision of
the hash alone. -/
theorem references_agree_iff (pepper seed account seed' account' : String) :
    (walletPreimage seed account pepper = walletPreimage seed' account' pepper ↔
      (seed = seed' ∧ account = account') ∨ CutLater seed account seed' account' ∨
        CutLater seed' account' seed account) ∧
    ((':' ∉ seed.toList ∧ ':' ∉ seed'.toList) ∨ (':' ∉ account.toList ∧ ':' ∉ account'.toList) →
      (seed, account) ≠ (seed', account') →
      walletPreimage seed account pepper ≠ walletPreimage seed' account' pepper) ∧
    (walletReference seed account pepper = walletReference seed' account' pepper ↔
      Sha256.digest (walletPreimage seed account pepper) =
        Sha256.digest (walletPreimage seed' account' pepper)) := by
  refine ⟨walletPreimage_eq_iff.trans joined_eq_joined_iff, ?_, walletReference_eq_iff⟩
  intro bare differ same
  rcases joined_eq_joined_iff.mp (walletPreimage_eq_iff.mp same) with ⟨rfl, rfl⟩ | later | later
  · exact differ rfl
  · rcases bare with ⟨-, bare⟩ | ⟨bare, -⟩
    · exact bare later.mem_seed
    · exact bare later.mem_account
  · rcases bare with ⟨bare, -⟩ | ⟨-, bare⟩
    · exact bare later.mem_seed
    · exact bare later.mem_account

/-- A phrase of words is bound to an account with a colon in it. -/
theorem phrase_of_words_is_bound :
    ':' ∉ "seed words".toList ∧
      walletPreimage "seed words" "acct:u1" "pepper" ≠
        walletPreimage "seed words" "acct:u2" "pepper" := by
  have bare : ':' ∉ "seed words".toList := by decide
  exact ⟨bare, (references_agree_iff "pepper" "seed words" "acct:u1" "seed words" "acct:u2").2.1
    (.inl ⟨bare, bare⟩) (by decide)⟩

/-- A colon in the phrase of one pair and in the account of another: two pairs and one reference. -/
theorem one_reference_of_two_pairs :
    (("a:b", "c") : String × String) ≠ ("a", "b:c") ∧
      walletPreimage "a:b" "c" "p" = walletPreimage "a" "b:c" "p" ∧
      walletReference "a:b" "c" "p" = walletReference "a" "b:c" "p" ∧
      ¬ ∀ pepper seed account seed' account', (seed, account) ≠ (seed', account') →
        walletPreimage seed account pepper ≠ walletPreimage seed' account' pepper := by
  have differ : (("a:b", "c") : String × String) ≠ ("a", "b:c") := by decide
  have same : walletPreimage "a:b" "c" "p" = walletPreimage "a" "b:c" "p" := by decide
  refine ⟨differ, same, walletReference_eq_iff.mpr (congrArg Sha256.digest same), ?_⟩
  intro bound
  exact bound "p" "a:b" "c" "a" "b:c" differ same

end AccountPortal

import AccountPortal.Proofs.Record.Readable
import AccountPortal.Proofs.RowLaw

/-!
# Integers of rows

The integers that a row has in its columns, kind by kind, and that after every run all of them are
words of sixty-four bits: no call writes an integer that it has not bound to a column before.

    (name, .int k) ∈ row, row ∈ t.contents n → fitsWord k = true              (fitsWord_of_course)
-/

namespace AccountPortal

/-! ## Columns -/

/-- The integers among the columns. -/
def integers (row : Fields Value) : List Int :=
  row.filterMap fun
    | (_, .int k) => some k
    | _ => none

section columns

variable {name : String} {row : Fields Value} {k : Int}

theorem mem_integers : k ∈ integers row ↔ ∃ name, (name, .int k) ∈ row := by
  unfold integers
  rw [List.mem_filterMap]
  constructor
  · rintro ⟨⟨name, v⟩, hmem, heq⟩
    cases v with
    | int n =>
      cases heq
      exact ⟨name, hmem⟩
    | _ => cases heq
  · rintro ⟨name, hmem⟩
    exact ⟨_, hmem, rfl⟩

@[simp] theorem integers_nil : integers [] = [] := rfl

@[simp] theorem integers_int : integers ((name, .int k) :: row) = k :: integers row := rfl

@[simp] theorem integers_text (s : String) :
    integers ((name, .text s) :: row) = integers row := rfl

@[simp] theorem integers_flag (b : Bool) : integers ((name, .flag b) :: row) = integers row := rfl

@[simp] theorem integers_choice {α : Type} [Choice α] (a : α) :
    integers ((name, Choice.value a) :: row) = integers row := rfl

@[simp] theorem integers_optText (s : Option String) :
    integers ((name, .optText s) :: row) = integers row := by
  cases s <;> rfl

@[simp] theorem integers_optFlag (b : Option Bool) :
    integers ((name, .optFlag b) :: row) = integers row := by
  cases b <;> rfl

@[simp] theorem integers_optInt (n : Option Int) :
    integers ((name, .optInt n) :: row) = n.toList ++ integers row := by
  cases n <;> rfl

@[simp] theorem integers_transports (ts : Option (List Transport)) :
    integers ((name, transportsValue ts) :: row) = integers row := by
  cases ts <;> rfl

end columns

/-! ## Rows -/

theorem integers_user (r : User) :
    integers (Row.columns r) = r.createdAt :: r.verifiedAt.toList := by
  simp [Row.columns]

theorem integers_session (r : Session) :
    integers (Row.columns r) = [r.expiresAt, r.createdAt] := by
  simp [Row.columns]

theorem integers_emailToken (r : EmailToken) :
    integers (Row.columns r) = r.expiresAt :: (r.consumedAt.toList ++ [r.createdAt]) := by
  simp [Row.columns]

theorem integers_identityLink (r : IdentityLink) :
    integers (Row.columns r) = [r.createdAt] := by
  simp [Row.columns]

theorem integers_oauthState (r : OAuthState) :
    integers (Row.columns r) = [r.expiresAt, r.createdAt] := by
  simp [Row.columns]

theorem integers_enrollment (r : Enrollment) :
    integers (Row.columns r) = r.lastSeen.toList ++ [r.createdAt, r.updatedAt] := by
  simp [Row.columns]

theorem integers_wallet (r : Wallet) :
    integers (Row.columns r) = r.createdAt :: r.acknowledgedAt.toList := by
  simp [Row.columns]

theorem integers_passkeyCredential (r : PasskeyCredential) :
    integers (Row.columns r) = r.counter :: r.createdAt :: r.lastUsedAt.toList := by
  simp [Row.columns, PasskeyCredential.plainColumns, Fields.put]

theorem integers_passkeyChallenge (r : PasskeyChallenge) :
    integers (Row.columns r) = [r.expiresAt, r.createdAt] := by
  simp [Row.columns]

/-! ## The law -/

/-- Every integer of the row is a word. -/
def Fits {α : Type} [Row α] (r : α) : Prop := ∀ k ∈ integers (Row.columns r), fitsWord k = true

def inRange : RowLaw where
  user := Fits
  session := Fits
  emailToken := Fits
  identityLink := Fits
  oauthState := Fits
  enrollment := Fits
  wallet := Fits
  passkeyCredential := Fits
  passkeyChallenge := Fits
  user_labelled r hash name h := by
    unfold Fits at h ⊢
    rw [integers_user] at h ⊢
    exact h

/-- A row with no integers but those of another row and words. -/
theorem Fits.of_subset {α : Type} [Row α] {r r' : α} (h : Fits r) (words : List Int)
    (fits : ∀ k ∈ words, fitsWord k = true)
    (sub : integers (Row.columns r') ⊆ words ++ integers (Row.columns r)) : Fits r' := by
  intro k hk
  rcases List.mem_append.mp (sub hk) with hk | hk
  · exact fits k hk
  · exact h k hk

/-- A date, and a time that is set unless it was set before. -/
theorem dated_or_subset (created now : Int) (time : Option Int) :
    created :: (time.or (some now)).toList ⊆ [now] ++ created :: time.toList := by
  cases time <;> simp

section kept

variable {now : Int} (fits : fitsWord now = true)

include fits

/-- A node whose time of change is set, and maybe the time it is seen at. -/
theorem fits_enrollment {r r' : Enrollment} (h : Fits r) (created : r'.createdAt = r.createdAt)
    (updated : r'.updatedAt = now) (seen : r'.lastSeen = r.lastSeen ∨ r'.lastSeen = some now) :
    Fits r' := by
  refine h.of_subset [now] (by simpa using fits) ?_
  rw [integers_enrollment, integers_enrollment, created, updated]
  rcases seen with seen | seen <;> rw [seen] <;> intro k <;> simp <;> tauto

/-- A credential whose counter and time of use are set. -/
theorem fits_passkeyCredential {r r' : PasskeyCredential} {counter : Int} (h : Fits r)
    (counted : fitsWord counter = true) (created : r'.createdAt = r.createdAt)
    (count : r'.counter = counter) (used : r'.lastUsedAt = some now) : Fits r' := by
  refine h.of_subset [counter, now] (by simp [counted, fits]) ?_
  rw [integers_passkeyCredential, integers_passkeyCredential, created, count, used]
  intro k
  simp
  tauto

theorem inRange_keptAt : inRange.KeptAt now where
  newUser _ _ _ _ verified := by
    cases verified <;> simp [inRange, Fits, integers_user, Accounts.fresh, fits]
  verified r h := by
    refine Fits.of_subset h [now] (by simpa using fits) ?_
    rw [integers_user, integers_user]
    exact dated_or_subset r.createdAt now r.verifiedAt
  newSession _ _ _ _ expiry := by simp [inRange, Fits, integers_session, fits, expiry]
  newEmailToken _ _ _ _ expiry := by simp [inRange, Fits, integers_emailToken, fits, expiry]
  consumed r _ h := by
    refine Fits.of_subset h [now] (by simpa using fits) ?_
    rw [integers_emailToken, integers_emailToken]
    simp
  newIdentityLink _ _ _ _ := by simp [inRange, Fits, integers_identityLink, fits]
  relinked _ _ _ h := by simpa [inRange, Fits, integers_identityLink] using h
  newOAuthState _ _ _ _ expiry := by simp [inRange, Fits, integers_oauthState, fits, expiry]
  newEnrollment _ _ _ _ _ _ := by
    simp [inRange, Fits, integers_enrollment, Enrollments.fresh, fits]
  enrolledAgain _ _ _ _ _ _ _ h := fits_enrollment fits h rfl rfl (.inl rfl)
  approved _ _ h := fits_enrollment fits h rfl rfl (.inl rfl)
  ownerVerified _ h := fits_enrollment fits h rfl rfl (.inl rfl)
  touched _ _ h := fits_enrollment fits h rfl rfl (.inr rfl)
  newWallet _ _ _ _ _ := by simp [inRange, Fits, integers_wallet, fits]
  acknowledged r h := by
    refine Fits.of_subset h [now] (by simpa using fits) ?_
    rw [integers_wallet, integers_wallet]
    exact dated_or_subset r.createdAt now r.acknowledgedAt
  newCredential _ _ counter := by
    simp [inRange, Fits, integers_passkeyCredential, PasskeyCredentials.fresh, fits, counter]
  registeredAgain _ _ _ counter h := fits_passkeyCredential fits h counter rfl rfl rfl
  counted _ _ counter h := fits_passkeyCredential fits h counter rfl rfl rfl
  newChallenge _ _ _ _ _ _ expiry := by
    simp [inRange, Fits, integers_passkeyChallenge, fits, expiry]

end kept

/-! ## Runs -/

/-- The rows of a table hold words. -/
theorem inRange_contents {t : Tables} (h : inRange.Holds t) (n : TableName) {row : Fields Value}
    (hrow : row ∈ t.contents n) : ∀ k ∈ integers row, fitsWord k = true := by
  have sorted {α : Type} [Row α] {rows : List α} (fits : ∀ r ∈ rows, Fits r)
      (hrow : row ∈ Tables.sortedColumns rows) : ∀ k ∈ integers row, fitsWord k = true := by
    obtain ⟨r, hr, rfl⟩ := mem_sortedColumns.mp hrow
    exact fits r hr
  cases n with
  | users => exact sorted h.users hrow
  | sessions => exact sorted h.sessions hrow
  | emailVerifications => exact sorted h.emailTokens hrow
  | oauthLinks => exact sorted h.identityLinks hrow
  | oauthStates => exact sorted h.oauthStates hrow
  | enrollments => exact sorted h.enrollments hrow
  | wallets => exact sorted h.wallets hrow
  | passkeyCredentials => exact sorted h.passkeyCredentials hrow
  | passkeyChallenges => exact sorted h.passkeyChallenges hrow

theorem fitsWord_of_course {settings : Settings} {h : List Event} {t : Tables}
    (course : Course settings (some .empty) h (some t)) (n : TableName) {row : Fields Value}
    (hrow : row ∈ t.contents n) {name : String} {k : Int} (hk : (name, .int k) ∈ row) :
    fitsWord k = true := by
  have holds : inRange.Holds t := course.invariant inRange.holds_empty
    (fun _ _ _ => inRange.holds_of_moves inRange_keptAt) t rfl
  exact inRange_contents holds n hrow k (mem_integers.mpr ⟨name, hk⟩)

end AccountPortal

import AccountPortal.Portal.Call
import Mathlib.Data.List.Forall2

/-!
# Tables that differ in their secrets

Two tables whose rows are the same one by one but for a secret. What tests the rows in such a way
that it cannot tell a row from its counterpart finds counterparts, and leaves tables that differ in
the same way (`Rows.change_rel`, `Rows.remove_rel`, `Rows.upsert_rel`). Secrets that rows are looked
up by are told apart as before: they go over into each other by one injective map for a table.
-/

namespace AccountPortal

/-! ## Row by row -/

namespace Rows

variable {α : Type} {P : α → α → Prop} {rows rows' : List α} {q q' : α → Bool} {f g : α → α}
  (h : List.Forall₂ P rows rows') (test : ∀ r r', P r r' → q' r' = q r)

include h test

theorem any_rel : rows'.any q' = rows.any q := by
  induction h with
  | nil => rfl
  | cons first _ ih => rw [List.any_cons, List.any_cons, test _ _ first, ih]

theorem countP_rel : rows'.countP q' = rows.countP q := by
  induction h with
  | nil => rfl
  | cons first _ ih => rw [List.countP_cons, List.countP_cons, test _ _ first, ih]

theorem find?_rel : Option.Rel P (rows.find? q) (rows'.find? q') := by
  induction h with
  | nil => exact .none
  | cons first _ ih =>
    rw [List.find?_cons, List.find?_cons, test _ _ first]
    split
    · exact .some first
    · exact ih

theorem map_find?_rel {β : Type} {k : α → β} (hk : ∀ r r', P r r' → k r' = k r) :
    (rows'.find? q').map k = (rows.find? q).map k := by
  have found := find?_rel h test
  generalize rows.find? q = r, rows'.find? q' = r' at found
  cases found with
  | none => rfl
  | some related => rw [Option.map_some, Option.map_some, hk _ _ related]

theorem remove_rel : List.Forall₂ P (remove q rows) (remove q' rows') := by
  unfold remove
  induction h with
  | nil => exact .nil
  | cons first _ ih =>
    rw [List.filter_cons, List.filter_cons, test _ _ first]
    split
    · exact .cons first ih
    · exact ih

theorem change_rel (hf : ∀ r r', P r r' → P (f r) (g r')) :
    List.Forall₂ P (change q f rows) (change q' g rows') := by
  unfold change
  induction h with
  | nil => exact .nil
  | cons first _ ih =>
    rw [List.map_cons, List.map_cons, test _ _ first]
    refine .cons ?_ ih
    split
    · exact hf _ _ first
    · exact first

theorem upsert_rel (hf : ∀ r r', P r r' → P (f r) (g r')) {new new' : α} (hnew : P new new') :
    List.Forall₂ P (upsert q f new rows) (upsert q' g new' rows') := by
  unfold upsert
  rw [any_rel h test]
  split
  · exact change_rel h test hf
  · exact List.rel_append h (.cons hnew .nil)

end Rows

/-! ## Rows -/

/-- What becomes of the hashes that sessions and email tokens are looked up by. -/
structure Hashes where
  session : String → String
  emailToken : String → String

/-- Different hashes stay different. -/
structure Hashes.Injective (m : Hashes) : Prop where
  session : Function.Injective m.session
  emailToken : Function.Injective m.emailToken

variable (m : Hashes)

def Session.rehashed (r : Session) : Session := { r with tokenHash := m.session r.tokenHash }

def EmailToken.rehashed (r : EmailToken) : EmailToken :=
  { r with tokenHash := m.emailToken r.tokenHash }

def User.Alike (r r' : User) : Prop := ∃ hash, r' = { r with passwordHash := hash }

def Enrollment.Alike (r r' : Enrollment) : Prop :=
  ∃ hash, r' = { r with registrationTokenHash := hash }

theorem User.Alike.beq_userId (id : String) (u u' : User) (h : u.Alike u') :
    (u'.userId == id) = (u.userId == id) := by
  obtain ⟨hash, rfl⟩ := h
  rfl

theorem Enrollment.Alike.beq_ownerUserId (id : String) (e e' : Enrollment) (h : e.Alike e') :
    (e'.ownerUserId == id) = (e.ownerUserId == id) := by
  obtain ⟨hash, rfl⟩ := h
  rfl

def Wallet.Alike (r r' : Wallet) : Prop :=
  ∃ seed key, r' = { r with seedPhraseHash := seed, encryptedPrivateKeyRef := key }

def PasskeyChallenge.Alike (r r' : PasskeyChallenge) : Prop :=
  ∃ challenge, r' = { r with challenge := challenge }

def PasskeyCredential.Alike (r r' : PasskeyCredential) : Prop :=
  ∃ key, r' = { r with publicKey := key }

/-- Tables that are the same but for the secrets in them. -/
structure Tables.Alike (t t' : Tables) : Prop where
  users : List.Forall₂ User.Alike t.users t'.users
  sessions : List.Forall₂ (fun r r' => r' = r.rehashed m) t.sessions t'.sessions
  emailTokens : List.Forall₂ (fun r r' => r' = r.rehashed m) t.emailTokens t'.emailTokens
  identityLinks : t'.identityLinks = t.identityLinks
  oauthStates : t'.oauthStates = t.oauthStates
  enrollments : List.Forall₂ Enrollment.Alike t.enrollments t'.enrollments
  wallets : List.Forall₂ Wallet.Alike t.wallets t'.wallets
  passkeyCredentials :
    List.Forall₂ PasskeyCredential.Alike t.passkeyCredentials t'.passkeyCredentials
  passkeyChallenges : List.Forall₂ PasskeyChallenge.Alike t.passkeyChallenges t'.passkeyChallenges

theorem Tables.alike_empty : Tables.Alike m .empty .empty :=
  ⟨.nil, .nil, .nil, rfl, rfl, .nil, .nil, .nil, .nil⟩

end AccountPortal

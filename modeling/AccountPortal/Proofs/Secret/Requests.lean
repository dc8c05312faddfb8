import AccountPortal.Proofs.Enrollment.Change
import AccountPortal.Proofs.Secret.Rows
import AccountPortal.Proofs.Twin.Portals

/-!
# Requests with other secrets

A request and the same request with other secrets (`withSecrets`), on rows that are the same but for
their secrets: they meet the same fault, or are answered alike and leave such rows again
(`agrees_withSecrets`, for each store). Secrets are stored and handed back, and no more is done with
them, but for two. Hashes that rows are looked up by stay different where they were. And one answer
turns on a secret: whether a node's token is the one that it was registered with; so of a check it
is assumed that it comes out the same way on both (`Request.ChecksAlike`).
-/

namespace AccountPortal

/-! ## Secrets -/

/-- What a call may be told that must not show. -/
structure Secrets where
  /-- Of a user who is created; of one whose password is set. -/
  passwordHash : Option String
  newPasswordHash : String
  registrationTokenHash : String
  rawToken : String
  seedPhraseHash : String
  encryptedPrivateKeyRef : String
  challenge : String
  publicKey : String

variable (m : Hashes) (x : Secrets)

def Accounts.Request.withSecrets : Accounts.Request → Accounts.Request
  | .create id email _ name verified => .create id email x.passwordHash name verified
  | .setPasswordHash id _ => .setPasswordHash id x.newPasswordHash
  | r => r

def Sessions.Request.withSecrets : Sessions.Request → Sessions.Request
  | .create id user hash given => .create id user (m.session hash) given
  | .find hash => .find (m.session hash)
  | .logOut hash => .logOut (m.session hash)
  | r => r

def EmailTokens.Request.withSecrets : EmailTokens.Request → EmailTokens.Request
  | .create id user hash given => .create id user (m.emailToken hash) given
  | .consume hash => .consume (m.emailToken hash)
  | r => r

def Enrollments.Request.withSecrets : Enrollments.Request → Enrollments.Request
  | .enroll id kind owner email _ verified =>
    .enroll id kind owner email x.registrationTokenHash verified
  | .checkToken id _ => .checkToken id x.rawToken
  | r => r

def Wallets.Request.withSecrets : Wallets.Request → Wallets.Request
  | .create user account _ _ network =>
    .create user account x.seedPhraseHash x.encryptedPrivateKeyRef network
  | r => r

def PasskeyChallenges.Request.withSecrets : PasskeyChallenges.Request → PasskeyChallenges.Request
  | .create id _ flow given user email => .create id x.challenge flow given user email
  | r => r

def PasskeyCredentials.Request.withSecrets :
    PasskeyCredentials.Request → PasskeyCredentials.Request
  | .register r transports => .register { r with publicKey := x.publicKey } transports
  | r => r

/-! ## Answers -/

/-- Answers that differ in secrets at most; an enrollment shows its state. -/
inductive Answer.Alike : Answer → Answer → Prop where
  | same (a : Answer) : Alike a a
  | user (u u' : User) : Alike (.record (some (.user u))) (.record (some (.user u')))
  | enrollment {e e' : Enrollment} (state : e'.state = e.state) :
    Alike (.record (some (.enrollment e))) (.record (some (.enrollment e')))
  | wallet (w w' : Wallet) : Alike (.record (some (.wallet w))) (.record (some (.wallet w')))
  | challenge (user email : Option String) (c c' : String) (flow : PasskeyFlow) :
    Alike (.record (some (.passkeyChallenge user email c flow)))
      (.record (some (.passkeyChallenge user email c' flow)))
  | credential (c c' : PasskeyCredential) :
    Alike (.record (some (.passkeyCredential c))) (.record (some (.passkeyCredential c')))
  | records (rs rs' : List Record) : Alike (.records rs) (.records rs')
  | verified (u u' : User) (nodes : Nat) :
    Alike (.verified (some u) nodes) (.verified (some u') nodes)

namespace Answer

variable {a a' : Answer}

theorem Alike.stage (h : Alike a a') : a'.stage = a.stage := by
  cases h <;> rfl

/-- The answer with the record of a row, if there is one. -/
theorem alike_record {α : Type} {P : α → α → Prop} {record : α → Record} {found found' : Option α}
    (h : Option.Rel P found found')
    (records : ∀ r r', P r r' → Alike (.record (some (record r))) (.record (some (record r')))) :
    Alike (.record (found.map record)) (.record (found'.map record)) := by
  cases h with
  | none => exact .same _
  | some related => exact records _ _ related

section counted

variable {α : Type} {P : α → α → Prop} {rows rows' : List α} {q q' : α → Bool}
  (h : List.Forall₂ P rows rows') (test : ∀ r r', P r r' → q' r' = q r)
include h test

/-- Whether any row passes a test that rows on both sides pass in pairs. -/
theorem alike_flag : Alike (.flag (rows.any q)) (.flag (rows'.any q')) := by
  rw [Rows.any_rel h test]
  exact .same _

theorem alike_count : Alike (.count (rows.countP q)) (.count (rows'.countP q')) := by
  rw [Rows.countP_rel h test]
  exact .same _

end counted

end Answer

open Answer (Alike)
open Plan (Agrees)

variable {m x} {ctx : Context}

/-- A create under a key that is in use on both sides or on neither. -/
theorem Plan.agrees_insert_rel {α : Type} {P : α → α → Prop} {A : Answer → Answer → Prop}
    {rows rows' : List α} {taken taken' : α → Bool} {new new' : α} {f : Fault} {a a' : Answer}
    (h : List.Forall₂ P rows rows') (test : ∀ r r', P r r' → taken' r' = taken r)
    (hnew : P new new') (answers : A a a') :
    Agrees (List.Forall₂ P) A (if rows.any taken then .error f else .ok (rows ++ [new], a))
      (if rows'.any taken' then .error f else .ok (rows' ++ [new'], a')) := by
  rw [Rows.any_rel h test]
  split
  · exact .error f
  · exact .ok (List.rel_append h (.cons hnew .nil)) answers

theorem Plan.agrees_purge_rel {α : Type} {P : α → α → Prop} {rows rows' : List α}
    {q q' : α → Bool} (h : List.Forall₂ P rows rows') (test : ∀ r r', P r r' → q' r' = q r)
    (integers : List Int) :
    Agrees (List.Forall₂ P) Alike ((Plan.update integers (Rows.purge q)).effect rows)
      ((Plan.update integers (Rows.purge q')).effect rows') :=
  Plan.agrees_update integers (Rows.remove_rel h test) (Answer.alike_count h test)

/-! ## Requests -/

namespace Accounts

/-- The user is found on both sides or on neither, and owns nodes in pairs. -/
theorem verifyEmail_rel {s s' : List User × List Enrollment}
    (users : List.Forall₂ User.Alike s.1 s'.1) (nodes : List.Forall₂ Enrollment.Alike s.2 s'.2)
    (id : String) (now : Int) :
    Agrees (fun s s' => List.Forall₂ User.Alike s.1 s'.1 ∧ List.Forall₂ Enrollment.Alike s.2 s'.2)
      Alike (.ok (verifyEmail id now s.1 s.2)) (.ok (verifyEmail id now s'.1 s'.2)) := by
  have known := User.Alike.beq_userId id
  have owned := Enrollment.Alike.beq_ownerUserId id
  have found := Rows.find?_rel users known
  unfold verifyEmail find?
  generalize s.1.find? (·.userId == id) = u, s'.1.find? (·.userId == id) = u' at found
  cases found with
  | none => exact .ok ⟨users, nodes⟩ (.same _)
  | @some u u' alike =>
    refine .ok ⟨Rows.change_rel users known ?_, Rows.change_rel nodes owned ?_⟩ ?_
    · rintro u _ ⟨hash, rfl⟩
      exact ⟨_, rfl⟩
    · rintro e _ ⟨hash, rfl⟩
      exact ⟨_, rfl⟩
    · show Alike (.verified _ (s.2.countP _)) (.verified _ (s'.2.countP _))
      rw [Rows.countP_rel nodes owned]
      exact .verified _ _ _

theorem agrees_withSecrets {s s' : List User × List Enrollment}
    (users : List.Forall₂ User.Alike s.1 s'.1) (nodes : List.Forall₂ Enrollment.Alike s.2 s'.2)
    (r : Request) :
    Agrees (fun s s' => List.Forall₂ User.Alike s.1 s'.1 ∧ List.Forall₂ Enrollment.Alike s.2 s'.2)
      Alike (Plan.effectOf (plan ctx r) s) (Plan.effectOf (plan ctx (r.withSecrets x)) s') := by
  have onUsers {planned planned' : Plan (List User)}
      (h : Agrees (List.Forall₂ User.Alike) Alike (planned.effect s.1) (planned'.effect s'.1)) :
      Agrees (fun s s' => List.Forall₂ User.Alike s.1 s'.1 ∧
        List.Forall₂ Enrollment.Alike s.2 s'.2) Alike
        (Plan.effectOf (.ok (onUsers planned)) s) (Plan.effectOf (.ok (onUsers planned')) s') := by
    rw [Plan.effectOf_ok, Plan.effectOf_ok, effect_onUsers, effect_onUsers]
    generalize planned.effect s.1 = y, planned'.effect s'.1 = y' at h
    cases h with
    | error f => exact .error f
    | ok tables answers => exact .ok ⟨tables, nodes⟩ answers
  have changed (id : String) {f g : User → User} (hf : ∀ u u', u.Alike u' → (f u).Alike (g u')) :
      Agrees (List.Forall₂ User.Alike) Alike ((Plan.update [] (change id f)).effect s.1)
        ((Plan.update [] (change id g)).effect s'.1) :=
    Plan.agrees_update _ (Rows.change_rel users (User.Alike.beq_userId id) hf)
      (Answer.alike_flag users (User.Alike.beq_userId id))
  cases r with
  | create id email hash name verified =>
    refine onUsers (Plan.agrees_transaction _ ?_)
    refine Plan.agrees_insert_rel users ?_ ⟨_, rfl⟩ (.user _ _)
    rintro u _ ⟨hash, rfl⟩
    rfl
  | get id =>
    have found := Rows.find?_rel users (User.Alike.beq_userId id)
    exact onUsers (.ok users (Answer.alike_record found fun u u' _ => .user u u'))
  | getByEmail email =>
    refine onUsers (.ok users ?_)
    refine Answer.alike_record (Rows.find?_rel users ?_) fun u u' _ => .user u u'
    rintro u _ ⟨hash, rfl⟩
    rfl
  | verifyEmail id =>
    simp only [Request.withSecrets, plan, Plan.effectOf_ok, Plan.effect_update]
    split
    · exact verifyEmail_rel users nodes id ctx.clock
    · exact .error _
  | setPasswordHash id hash =>
    refine onUsers (changed id ?_)
    rintro u _ ⟨old, rfl⟩
    exact ⟨_, rfl⟩
  | setDisplayName id name =>
    refine onUsers (changed id ?_)
    rintro u _ ⟨hash, rfl⟩
    exact ⟨_, rfl⟩

end Accounts

namespace Sessions

theorem agrees_withSecrets (inj : m.Injective) {rows rows' : List Session}
    (h : List.Forall₂ (fun r r' => r' = r.rehashed m) rows rows') (r : Request) :
    Agrees (List.Forall₂ fun r r' => r' = r.rehashed m) Alike (Plan.effectOf (plan ctx r) rows)
      (Plan.effectOf (plan ctx (r.withSecrets m)) rows') := by
  have sameHash (hash : String) (r : Session) :
      ((r.rehashed m).tokenHash == m.session hash) = (r.tokenHash == hash) :=
    Bool.eq_iff_iff.mpr (by simp [Session.rehashed, inj.session.eq_iff])
  cases r with
  | create id user hash given =>
    refine Plan.agrees_transaction _ (Plan.agrees_insert_rel h ?_ rfl (.same _))
    rintro r _ rfl
    show (r.sessionId == id || (r.rehashed m).tokenHash == m.session hash) = _
    rw [sameHash hash r]
  | find hash =>
    simp only [Request.withSecrets, plan, Plan.effectOf_ok]
    refine Plan.agrees_transaction _ (.ok h (Answer.alike_record (Rows.find?_rel h ?_) ?_))
    · rintro r _ rfl
      rw [sameHash hash r]
      rfl
    · rintro r _ rfl
      exact .same _
  | logOut hash =>
    have test : ∀ r r' : Session, r' = r.rehashed m →
        (r'.tokenHash == m.session hash) = (r.tokenHash == hash) := by
      rintro r _ rfl
      exact sameHash hash r
    simp only [Request.withSecrets, plan, Plan.effectOf_ok]
    exact Plan.agrees_update _ (Rows.remove_rel h test) (Answer.alike_flag h test)
  | logOutUser user =>
    simp only [Request.withSecrets, plan, Plan.effectOf_ok]
    refine Plan.agrees_purge_rel h ?_ _
    rintro r _ rfl
    rfl
  | purge =>
    refine Plan.agrees_purge_rel h ?_ _
    rintro r _ rfl
    rfl

end Sessions

namespace EmailTokens

theorem agrees_withSecrets (inj : m.Injective) {rows rows' : List EmailToken}
    (h : List.Forall₂ (fun r r' => r' = r.rehashed m) rows rows') (r : Request) :
    Agrees (List.Forall₂ fun r r' => r' = r.rehashed m) Alike (Plan.effectOf (plan ctx r) rows)
      (Plan.effectOf (plan ctx (r.withSecrets m)) rows') := by
  have sameHash (hash : String) (r : EmailToken) :
      ((r.rehashed m).tokenHash == m.emailToken hash) = (r.tokenHash == hash) :=
    Bool.eq_iff_iff.mpr (by simp [EmailToken.rehashed, inj.emailToken.eq_iff])
  cases r with
  | create id user hash given =>
    refine Plan.agrees_transaction _ (Plan.agrees_insert_rel h ?_ rfl (.same _))
    rintro r _ rfl
    show (r.tokenId == id || (r.rehashed m).tokenHash == m.emailToken hash) = _
    rw [sameHash hash r]
  | consume hash =>
    have live : ∀ r r' : EmailToken, r' = r.rehashed m →
        (r'.tokenHash == m.emailToken hash && r'.isLive ctx.clock) =
          (r.tokenHash == hash && r.isLive ctx.clock) := by
      rintro r _ rfl
      rw [sameHash hash r]
      rfl
    simp only [Request.withSecrets, plan, Plan.effectOf_ok]
    refine Plan.agrees_update _ (Rows.change_rel h live ?_) ?_
    · rintro r _ rfl
      rfl
    · have owner : ∀ r r' : EmailToken, r' = r.rehashed m → r'.userId = r.userId := by
        rintro r _ rfl
        rfl
      show Alike (.owner ((rows.find? _).map _)) (.owner ((rows'.find? _).map _))
      rw [Rows.map_find?_rel h live owner]
      exact .same _
  | purge =>
    refine Plan.agrees_purge_rel h ?_ _
    rintro r _ rfl
    rfl

end EmailTokens

namespace Enrollments

/-- Whether a token is the one that the node was registered with. -/
def opens (raw : String) (e : Enrollment) : Bool :=
  sameText e.registrationTokenHash (Token.hash raw)

/-- A node takes the token that it was registered with. -/
theorem opens_of_registered {raw : String} {e : Enrollment}
    (registered : e.registrationTokenHash = Token.hash raw) : opens raw e = true := by
  have self (a : Bytes) : a.same a = true := by
    have folded : (a.xor a).foldl (· ||| ·) 0 = 0 := by
      unfold Bytes.xor
      induction a with
      | nil => rfl
      | cons b rest ih => simpa using ih
    simp [Bytes.same, folded]
  rw [opens, registered, sameText, self]

/-- The node that a token is checked for is the same in both, or in neither. -/
def Request.ChecksAlike (r r' : Request) (rows rows' : List Enrollment) : Prop :=
  ∀ id raw raw', r = .checkToken id raw → r' = .checkToken id raw' →
    ∀ e e', find? id rows = some e → find? id rows' = some e' → opens raw' e' = opens raw e

theorem agrees_withSecrets {rows rows' : List Enrollment}
    (h : List.Forall₂ Enrollment.Alike rows rows') (r : Request)
    (checks : r.ChecksAlike (r.withSecrets x) rows rows') :
    Agrees (List.Forall₂ Enrollment.Alike) Alike (Plan.effectOf (plan ctx r) rows)
      (Plan.effectOf (plan ctx (r.withSecrets x)) rows') := by
  have sameNode (id : String) : ∀ e e' : Enrollment, e.Alike e' →
      (e'.nodeId == id) = (e.nodeId == id) := by
    rintro e _ ⟨hash, rfl⟩
    rfl
  have alike : ∀ e e' : Enrollment, e.Alike e' →
      Alike (.record (some e.record)) (.record (some e'.record)) := by
    rintro e _ ⟨hash, rfl⟩
    exact .enrollment rfl
  have change (id : String) {f : Enrollment → Enrollment}
      (hf : ∀ e e', e.Alike e' → (f e).Alike (f e')) :
      Agrees (List.Forall₂ Enrollment.Alike) Alike
        ((Plan.update [ctx.clock] (change id f)).effect rows)
        ((Plan.update [ctx.clock] (Enrollments.change id f)).effect rows') := by
    have changed := Rows.change_rel h (sameNode id) hf
    exact Plan.agrees_update _ changed
      (Answer.alike_record (Rows.find?_rel changed (sameNode id)) alike)
  cases r with
  | enroll id kind owner email hash verified =>
    refine Plan.agrees_map _ fun k => ?_
    have enrolled := Rows.upsert_rel (f := renewed (fresh id k owner email hash verified ctx.clock))
      (g := renewed (fresh id k owner email x.registrationTokenHash verified ctx.clock))
      h (sameNode id) ?_
      (show (fresh id k owner email hash verified ctx.clock).Alike
        (fresh id k owner email x.registrationTokenHash verified ctx.clock) from ⟨_, rfl⟩)
    · exact Plan.agrees_update _ enrolled
        (Answer.alike_record (Rows.find?_rel enrolled (sameNode id)) alike)
    · rintro e _ ⟨old, rfl⟩
      exact ⟨_, rfl⟩
  | approve id value =>
    refine change id ?_
    rintro e _ ⟨hash, rfl⟩
    exact ⟨_, rfl⟩
  | verifyOwner owner =>
    simp only [Request.withSecrets, plan, Plan.effectOf_ok]
    refine Plan.agrees_update _ (Rows.change_rel h (Enrollment.Alike.beq_ownerUserId owner) ?_)
      (Answer.alike_count h (Enrollment.Alike.beq_ownerUserId owner))
    rintro e _ ⟨hash, rfl⟩
    exact ⟨_, rfl⟩
  | touch id form =>
    simp only [Request.withSecrets, plan]
    cases patchOf form with
    | error issues => exact .error _
    | ok patch =>
      refine change id ?_
      rintro e _ ⟨hash, rfl⟩
      exact ⟨_, rfl⟩
  | get id => exact .ok h (Answer.alike_record (Rows.find?_rel h (sameNode id)) alike)
  | listByOwner owner => exact .ok h (.records _ _)
  | checkToken id raw =>
    refine .ok h ?_
    have found : Option.Rel Enrollment.Alike (find? id rows) (find? id rows') :=
      Rows.find?_rel h (sameNode id)
    have opened := checks id raw x.rawToken rfl rfl
    unfold checkToken
    generalize find? id rows = e, find? id rows' = e' at found opened
    cases found with
    | none => exact .same _
    | @some e e' node =>
      have same : sameText e'.registrationTokenHash (Token.hash x.rawToken) =
          sameText e.registrationTokenHash (Token.hash raw) := opened e e' rfl rfl
      simp only [same]
      split
      · exact alike e e' node
      · exact .same _

end Enrollments

namespace Wallets

theorem agrees_withSecrets {rows rows' : List Wallet} (h : List.Forall₂ Wallet.Alike rows rows')
    (r : Request) :
    Agrees (List.Forall₂ Wallet.Alike) Alike (Plan.effectOf (plan ctx r) rows)
      (Plan.effectOf (plan ctx (r.withSecrets x)) rows') := by
  have sameUser (id : String) : ∀ w w' : Wallet, w.Alike w' →
      (w'.userId == id) = (w.userId == id) := by
    rintro w _ ⟨seed, key, rfl⟩
    rfl
  cases r with
  | create user account seed key network =>
    simp only [Request.withSecrets, plan, Plan.effectOf_ok]
    rw [Plan.effect_update, Plan.effect_update]
    unfold insert
    rw [Rows.any_rel h (sameUser user)]
    split
    · split
      · exact .ok h (.same _)
      · exact .ok (List.rel_append h (.cons ⟨_, _, rfl⟩ .nil)) (.same _)
    · exact .error _
  | get user => exact .ok h (Answer.alike_record (Rows.find?_rel h (sameUser user)) fun w w' _ =>
      .wallet w w')
  | acknowledge user =>
    have acknowledged := Rows.change_rel (f := acknowledged ctx.clock)
      (g := Wallets.acknowledged ctx.clock) h (sameUser user) ?_
    · exact Plan.agrees_update _ acknowledged (Answer.alike_record
        (Rows.find?_rel acknowledged (sameUser user)) fun w w' _ => .wallet w w')
    · rintro w _ ⟨seed, key, rfl⟩
      exact ⟨_, _, rfl⟩

end Wallets

namespace PasskeyChallenges

theorem agrees_withSecrets {rows rows' : List PasskeyChallenge}
    (h : List.Forall₂ PasskeyChallenge.Alike rows rows') (r : Request) :
    Agrees (List.Forall₂ PasskeyChallenge.Alike) Alike (Plan.effectOf (plan ctx r) rows)
      (Plan.effectOf (plan ctx (r.withSecrets x)) rows') := by
  cases r with
  | create id challenge flow given user email =>
    refine Plan.agrees_map _ fun f => ?_
    refine Plan.agrees_transaction _ (Plan.agrees_insert_rel h ?_ ⟨_, rfl⟩ (.same _))
    rintro r _ ⟨c, rfl⟩
    rfl
  | consume id =>
    have live : ∀ r r' : PasskeyChallenge, r.Alike r' →
        (r'.challengeId == id && r'.isLive ctx.clock) =
          (r.challengeId == id && r.isLive ctx.clock) := by
      rintro r _ ⟨c, rfl⟩
      rfl
    simp only [Request.withSecrets, plan, Plan.effectOf_ok]
    refine Plan.agrees_update _ (Rows.remove_rel h live)
      (Answer.alike_record (Rows.find?_rel h live) ?_)
    rintro r _ ⟨c, rfl⟩
    exact .challenge _ _ _ _ _
  | purge =>
    refine Plan.agrees_purge_rel h ?_ _
    rintro r _ ⟨c, rfl⟩
    rfl

end PasskeyChallenges

namespace PasskeyCredentials

theorem agrees_withSecrets {rows rows' : List PasskeyCredential}
    (h : List.Forall₂ PasskeyCredential.Alike rows rows') (r : Request) :
    Agrees (List.Forall₂ PasskeyCredential.Alike) Alike (Plan.effectOf (plan ctx r) rows)
      (Plan.effectOf (plan ctx (r.withSecrets x)) rows') := by
  have sameId (id : String) : ∀ c c' : PasskeyCredential, c.Alike c' →
      (c'.credentialId == id) = (c.credentialId == id) := by
    rintro c _ ⟨key, rfl⟩
    rfl
  cases r with
  | register r transports =>
    refine Plan.agrees_map _ fun ts => ?_
    have stored := Rows.upsert_rel (f := renewed (fresh r ts ctx.clock))
      (g := renewed (fresh { r with publicKey := x.publicKey } ts ctx.clock)) h
      (sameId r.credentialId) ?_
      (show (fresh r ts ctx.clock).Alike
        (fresh { r with publicKey := x.publicKey } ts ctx.clock) from ⟨_, rfl⟩)
    · exact Plan.agrees_update _ stored (Answer.alike_record
        (Rows.find?_rel stored (sameId r.credentialId)) fun c c' _ => .credential c c')
    · rintro c _ ⟨key, rfl⟩
      exact ⟨_, rfl⟩
  | setCounter id counter =>
    simp only [Request.withSecrets, plan, Plan.effectOf_ok]
    refine Plan.agrees_update _ (Rows.change_rel h (sameId id) ?_)
      (Answer.alike_flag h (sameId id))
    rintro c _ ⟨key, rfl⟩
    exact ⟨_, rfl⟩
  | get id => exact .ok h (Answer.alike_record (Rows.find?_rel h (sameId id)) fun c c' _ =>
      .credential c c')
  | listForUser user => exact .ok h (.records _ _)
  | remove id user =>
    have owned : ∀ c c' : PasskeyCredential, c.Alike c' →
        (c'.credentialId == id && c'.userId == user) =
          (c.credentialId == id && c.userId == user) := by
      rintro c _ ⟨key, rfl⟩
      rfl
    simp only [Request.withSecrets, plan, Plan.effectOf_ok]
    exact Plan.agrees_update _ (Rows.remove_rel h owned) (Answer.alike_flag h owned)

end PasskeyCredentials

end AccountPortal

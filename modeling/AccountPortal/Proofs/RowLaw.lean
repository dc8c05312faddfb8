import AccountPortal.Proofs.Ensures
import AccountPortal.Proofs.History

/-!
# Laws of rows

A `RowLaw` says of each kind of row what holds of every row on its own. `L.KeptAt now` lists what
calls write at a time: the rows that are new then, and what becomes of rows that are there. A law
that is kept at the time of an event is kept by the event:

    L.KeptAt e.clock → e.Moves settings (some t) (some u) → L.Holds t → L.Holds u   (holds_of_moves)
-/

namespace AccountPortal

structure RowLaw where
  user : User → Prop
  session : Session → Prop
  emailToken : EmailToken → Prop
  identityLink : IdentityLink → Prop
  oauthState : OAuthState → Prop
  enrollment : Enrollment → Prop
  wallet : Wallet → Prop
  passkeyCredential : PasskeyCredential → Prop
  passkeyChallenge : PasskeyChallenge → Prop
  /-- The law does not look at what a user sets at will, whatever the time. -/
  user_labelled : ∀ r hash name, user r → user { r with passwordHash := hash, displayName := name }

namespace RowLaw

structure Holds (L : RowLaw) (t : Tables) : Prop where
  users : ∀ r ∈ t.users, L.user r
  sessions : ∀ r ∈ t.sessions, L.session r
  emailTokens : ∀ r ∈ t.emailTokens, L.emailToken r
  identityLinks : ∀ r ∈ t.identityLinks, L.identityLink r
  oauthStates : ∀ r ∈ t.oauthStates, L.oauthState r
  enrollments : ∀ r ∈ t.enrollments, L.enrollment r
  wallets : ∀ r ∈ t.wallets, L.wallet r
  passkeyCredentials : ∀ r ∈ t.passkeyCredentials, L.passkeyCredential r
  passkeyChallenges : ∀ r ∈ t.passkeyChallenges, L.passkeyChallenge r

/-- What is written at a time is by the law; integers that a caller gives are in range. -/
structure KeptAt (L : RowLaw) (now : Int) : Prop where
  newUser : ∀ id email hash name verified, L.user (Accounts.fresh id email hash name verified now)
  verified : ∀ r, L.user r → L.user (Accounts.verified now r)
  newSession : ∀ id user hash expiry, fitsWord expiry = true →
    L.session ⟨id, user, hash, expiry, now⟩
  newEmailToken : ∀ id user hash expiry, fitsWord expiry = true →
    L.emailToken ⟨id, user, hash, expiry, none, now⟩
  consumed : ∀ r, r.isLive now = true → L.emailToken r →
    L.emailToken { r with consumedAt := some now }
  newIdentityLink : ∀ provider subject user email,
    L.identityLink ⟨provider, subject, user, email, now⟩
  relinked : ∀ r user email, L.identityLink r →
    L.identityLink { r with userId := user, emailSnapshot := email }
  newOAuthState : ∀ id provider uri expiry, fitsWord expiry = true →
    L.oauthState ⟨id, provider, uri, expiry, now⟩
  newEnrollment : ∀ id kind owner email hash verified,
    L.enrollment (Enrollments.fresh id kind owner email hash verified now)
  enrolledAgain : ∀ id kind owner email hash verified r, L.enrollment r →
    L.enrollment (Enrollments.renewed (Enrollments.fresh id kind owner email hash verified now) r)
  approved : ∀ value r, L.enrollment r → L.enrollment (Enrollments.approved value now r)
  ownerVerified : ∀ r, L.enrollment r → L.enrollment (Enrollments.ownerVerified now r)
  touched : ∀ patch r, L.enrollment r → L.enrollment (Enrollments.touched patch now r)
  newWallet : ∀ user account network seed key,
    L.wallet ⟨user, account, network, seed, key, now, none⟩
  acknowledged : ∀ r, L.wallet r → L.wallet (Wallets.acknowledged now r)
  newCredential : ∀ r transports, fitsWord r.counter = true →
    L.passkeyCredential (PasskeyCredentials.fresh r transports now)
  registeredAgain : ∀ r transports old, fitsWord r.counter = true → L.passkeyCredential old →
    L.passkeyCredential
      (PasskeyCredentials.renewed (PasskeyCredentials.fresh r transports now) old)
  counted : ∀ counter r, fitsWord counter = true → L.passkeyCredential r →
    L.passkeyCredential { r with counter := counter, lastUsedAt := some now }
  newChallenge : ∀ id user email challenge flow expiry, fitsWord expiry = true →
    L.passkeyChallenge ⟨id, user, email, challenge, flow, expiry, now⟩

/-! ## Rows of one kind -/

open Plan

section rows

variable {α : Type} {p : α → Prop} {test : α → Bool} {f : α → α} {new : α}

/-- What holds of every row before a request holds of every row after it. -/
def KeepsRows (p : α → Prop) (rows rows' : List α) : Prop :=
  (∀ r ∈ rows, p r) → ∀ r ∈ rows', p r

/-- A request that keeps it, where it is answered. -/
def Keeps (p : α → Prop) : Except Fault (Plan (List α)) → Prop :=
  Ensures fun rows rows' _ => KeepsRows p rows rows'

theorem keepsRows_same (rows : List α) : KeepsRows p rows rows := id

theorem keepsRows_append (rows : List α) (h : p new) : KeepsRows p rows (rows ++ [new]) := by
  intro all r hr
  rcases List.mem_append.mp hr with hr | hr
  · exact all r hr
  · rw [List.mem_singleton.mp hr]
    exact h

theorem keepsRows_remove (rows : List α) : KeepsRows p rows (Rows.remove test rows) :=
  fun all r hr => all r (Rows.mem_remove.mp hr).1

theorem keepsRows_change (rows : List α) (h : ∀ r, test r = true → p r → p (f r)) :
    KeepsRows p rows (Rows.change test f rows) :=
  Rows.forall_change_of_pass h

theorem keepsRows_upsert (rows : List α) (h : ∀ r, p r → p (f r)) (hnew : p new) :
    KeepsRows p rows (Rows.upsert test f new rows) :=
  Rows.forall_upsert h hnew

end rows

/-! ## Stores -/

variable (L : RowLaw) {ctx : Context}

theorem fits_pair {m n : Int} (fits : [m, n].all fitsWord = true) :
    fitsWord m = true ∧ fitsWord n = true := by
  simpa using fits

theorem fits_single {n : Int} (fits : [n].all fitsWord = true) : fitsWord n = true := by
  simpa using fits

theorem keeps_sessions (kept : fitsWord ctx.clock = true → L.KeptAt ctx.clock)
    (r : Sessions.Request) : Keeps L.session (Sessions.plan ctx r) := by
  cases r with
  | create id user hash given =>
    refine ensures_insert_of_fits fun fits rows => keepsRows_append rows ?_
    exact (kept (fits_pair fits).2).newSession _ _ _ _ (fits_pair fits).1
  | find hash => exact ensures_update keepsRows_same
  | logOut hash => exact ensures_update keepsRows_remove
  | logOutUser user => exact ensures_update keepsRows_remove
  | purge => exact ensures_update keepsRows_remove

theorem keeps_emailTokens (kept : fitsWord ctx.clock = true → L.KeptAt ctx.clock)
    (r : EmailTokens.Request) : Keeps L.emailToken (EmailTokens.plan ctx r) := by
  cases r with
  | create id user hash given =>
    refine ensures_insert_of_fits fun fits rows => keepsRows_append rows ?_
    exact (kept (fits_pair fits).2).newEmailToken _ _ _ _ (fits_pair fits).1
  | consume hash =>
    refine ensures_update_of_fits fun fits rows => keepsRows_change rows fun r live => ?_
    exact (kept (fits_single fits)).consumed r (Bool.and_eq_true_iff.mp live).2
  | purge => exact ensures_update keepsRows_remove

theorem keeps_identityLinks (kept : fitsWord ctx.clock = true → L.KeptAt ctx.clock)
    (r : IdentityLinks.Request) : Keeps L.identityLink (IdentityLinks.plan ctx r) := by
  cases r with
  | link provider subject user email =>
    refine ensures_map fun p => ensures_update_of_fits fun fits rows => ?_
    have writes := kept (fits_single fits)
    exact keepsRows_upsert rows (fun r => writes.relinked r user email)
      (writes.newIdentityLink p subject user email)
  | find provider subject =>
    simp only [IdentityLinks.plan]
    split
    · exact ensures_update keepsRows_same
    · exact ensures_answered keepsRows_same

theorem keeps_oauthStates (kept : fitsWord ctx.clock = true → L.KeptAt ctx.clock)
    (r : OAuthStates.Request) : Keeps L.oauthState (OAuthStates.plan ctx r) := by
  cases r with
  | create id provider uri given =>
    refine ensures_map fun p => ensures_insert_of_fits fun fits rows => keepsRows_append rows ?_
    exact (kept (fits_pair fits).2).newOAuthState _ _ _ _ (fits_pair fits).1
  | consume id => exact ensures_update keepsRows_remove
  | purge => exact ensures_update keepsRows_remove

theorem keeps_passkeyChallenges (kept : fitsWord ctx.clock = true → L.KeptAt ctx.clock)
    (r : PasskeyChallenges.Request) : Keeps L.passkeyChallenge (PasskeyChallenges.plan ctx r) := by
  cases r with
  | create id challenge flow given user email =>
    refine ensures_map fun f => ensures_insert_of_fits fun fits rows => keepsRows_append rows ?_
    exact (kept (fits_pair fits).2).newChallenge _ _ _ _ _ _ (fits_pair fits).1
  | consume id => exact ensures_update keepsRows_remove
  | purge => exact ensures_update keepsRows_remove

theorem keeps_wallets (kept : fitsWord ctx.clock = true → L.KeptAt ctx.clock)
    (r : Wallets.Request) : Keeps L.wallet (Wallets.plan ctx r) := by
  cases r with
  | create user account seed key network =>
    refine ensures_update_of_fits fun fits rows => ?_
    have new := (kept (fits_single fits)).newWallet user account
      (Wallets.networkOf ctx.settings network) seed key
    unfold Wallets.insert
    split
    · exact keepsRows_same rows
    · exact keepsRows_append rows new
  | get user => exact ensures_update keepsRows_same
  | acknowledge user =>
    refine ensures_update_of_fits fun fits rows => keepsRows_change rows fun r _ => ?_
    exact (kept (fits_single fits)).acknowledged r

theorem keeps_passkeyCredentials (kept : fitsWord ctx.clock = true → L.KeptAt ctx.clock)
    (r : PasskeyCredentials.Request) :
    Keeps L.passkeyCredential (PasskeyCredentials.plan ctx r) := by
  cases r with
  | register r transports =>
    refine ensures_map fun ts => ensures_update_of_fits fun fits rows => ?_
    obtain ⟨counter, clock⟩ := fits_pair fits
    exact keepsRows_upsert rows (fun old => (kept clock).registeredAgain r ts old counter)
      ((kept clock).newCredential r ts counter)
  | setCounter id counter =>
    refine ensures_update_of_fits fun fits rows => keepsRows_change rows fun r _ => ?_
    exact (kept (fits_pair fits).2).counted counter r (fits_pair fits).1
  | get id => exact ensures_update keepsRows_same
  | listForUser user => exact ensures_update keepsRows_same
  | remove id user => exact ensures_update keepsRows_remove

theorem keeps_enrollments (kept : fitsWord ctx.clock = true → L.KeptAt ctx.clock)
    (r : Enrollments.Request) : Keeps L.enrollment (Enrollments.plan ctx r) := by
  cases r with
  | enroll id kind owner email hash verified =>
    refine ensures_map fun k => ensures_update_of_fits fun fits rows => ?_
    have writes := kept (fits_single fits)
    exact keepsRows_upsert rows (writes.enrolledAgain id k owner email hash verified)
      (writes.newEnrollment id k owner email hash verified)
  | approve id value =>
    refine ensures_update_of_fits fun fits rows => keepsRows_change rows fun r _ => ?_
    exact (kept (fits_single fits)).approved value r
  | verifyOwner owner =>
    refine ensures_update_of_fits fun fits rows => keepsRows_change rows fun r _ => ?_
    exact (kept (fits_single fits)).ownerVerified r
  | touch id form =>
    simp only [Enrollments.plan]
    split
    · next patch _ =>
      refine ensures_update_of_fits fun fits rows => keepsRows_change rows fun r _ => ?_
      exact (kept (fits_single fits)).touched patch r
    · exact ensures_error _
  | get id => exact ensures_update keepsRows_same
  | listByOwner owner => exact ensures_update keepsRows_same
  | checkToken id raw => exact ensures_update keepsRows_same

/-- What is kept of the users and of the nodes. -/
def KeepsAccounts (s s' : List User × List Enrollment) (_ : Answer) : Prop :=
  KeepsRows L.user s.1 s'.1 ∧ KeepsRows L.enrollment s.2 s'.2

theorem keeps_accounts (kept : fitsWord ctx.clock = true → L.KeptAt ctx.clock)
    (r : Accounts.Request) : Ensures L.KeepsAccounts (Accounts.plan ctx r) := by
  have onUsers {plan : Plan (List User)} (h : Keeps L.user (.ok plan)) :
      Ensures L.KeepsAccounts (.ok (Accounts.onUsers plan)) := by
    show Ensures _ ((Except.ok plan).map (Plan.on Prod.fst fun users s => (users, s.2)))
    exact ensures_on h (fun _ => rfl) fun s _ _ users => ⟨users, keepsRows_same s.2⟩
  cases r with
  | create id email hash name verified =>
    refine onUsers (ensures_insert_of_fits fun fits users => keepsRows_append users ?_)
    exact (kept (fits_single fits)).newUser id email hash name verified
  | get id => exact onUsers (ensures_update keepsRows_same)
  | getByEmail email => exact onUsers (ensures_update keepsRows_same)
  | verifyEmail id =>
    refine ensures_update_of_fits fun fits s => ?_
    have writes := kept (fits_single fits)
    unfold Accounts.verifyEmail
    split
    · exact ⟨keepsRows_same s.1, keepsRows_same s.2⟩
    · exact ⟨keepsRows_change s.1 fun r _ => writes.verified r,
        keepsRows_change s.2 fun r _ => writes.ownerVerified r⟩
  | setPasswordHash id hash =>
    refine onUsers (ensures_update fun users => keepsRows_change users fun r _ => ?_)
    exact L.user_labelled r (some hash) r.displayName
  | setDisplayName id name =>
    refine onUsers (ensures_update fun users => keepsRows_change users fun r _ => ?_)
    exact L.user_labelled r r.passwordHash name

/-! ## Calls -/

theorem keeps_call (kept : fitsWord ctx.clock = true → L.KeptAt ctx.clock) (c : Call) :
    Ensures (fun t u _ => L.Holds t → L.Holds u) (c.plan ctx) := by
  cases c with
  | accounts r =>
    exact ensures_on (L.keeps_accounts kept r) (fun _ => rfl) fun _ _ _ ⟨users, nodes⟩ h =>
      { h with users := users h.users, enrollments := nodes h.enrollments }
  | sessions r =>
    exact ensures_on (L.keeps_sessions kept r) (fun _ => rfl) fun _ _ _ rows h =>
      { h with sessions := rows h.sessions }
  | emailTokens r =>
    exact ensures_on (L.keeps_emailTokens kept r) (fun _ => rfl) fun _ _ _ rows h =>
      { h with emailTokens := rows h.emailTokens }
  | identityLinks r =>
    exact ensures_on (L.keeps_identityLinks kept r) (fun _ => rfl) fun _ _ _ rows h =>
      { h with identityLinks := rows h.identityLinks }
  | oauthStates r =>
    exact ensures_on (L.keeps_oauthStates kept r) (fun _ => rfl) fun _ _ _ rows h =>
      { h with oauthStates := rows h.oauthStates }
  | enrollments r =>
    exact ensures_on (L.keeps_enrollments kept r) (fun _ => rfl) fun _ _ _ rows h =>
      { h with enrollments := rows h.enrollments }
  | wallets r =>
    exact ensures_on (L.keeps_wallets kept r) (fun _ => rfl) fun _ _ _ rows h =>
      { h with wallets := rows h.wallets }
  | passkeyChallenges r =>
    exact ensures_on (L.keeps_passkeyChallenges kept r) (fun _ => rfl) fun _ _ _ rows h =>
      { h with passkeyChallenges := rows h.passkeyChallenges }
  | passkeyCredentials r =>
    exact ensures_on (L.keeps_passkeyCredentials kept r) (fun _ => rfl) fun _ _ _ rows h =>
      { h with passkeyCredentials := rows h.passkeyCredentials }
  | purgeExpired =>
    refine ensures_update fun t h => ?_
    exact { h with
      sessions := fun r hr => h.sessions r (Rows.mem_remove.mp hr).1
      emailTokens := fun r hr => h.emailTokens r (Rows.mem_remove.mp hr).1
      oauthStates := fun r hr => h.oauthStates r (Rows.mem_remove.mp hr).1
      passkeyChallenges := fun r hr => h.passkeyChallenges r (Rows.mem_remove.mp hr).1 }

theorem holds_empty : L.Holds .empty := by
  constructor <;> exact fun _ hr => nomatch hr

theorem holds_of_moves {settings : Settings} {e : Event} {t u : Tables}
    (kept : fitsWord e.clock = true → L.KeptAt e.clock)
    (moves : e.Moves settings (some t) (some u)) (h : L.Holds t) : L.Holds u := by
  rcases Event.effect_or_eq_of_moves moves with ⟨c, a, -, heffect⟩ | ⟨rfl, -⟩
  · exact L.keeps_call kept c t u a heffect h
  · exact h

end RowLaw

end AccountPortal

import AccountPortal.Proofs.Ensures

/-!
# Records of answers

A record that a call hands back is the record of a row: of one that was there before the call, or of
one that is there after it.

    c.effect ctx t = .ok (u, a) → ∀ r ∈ a.shown, ∃ n, r ∈ t.records n ∨ r ∈ u.records n
                                                                                (Call.shows)
-/

namespace AccountPortal

/-- The records that an answer hands back. -/
def Answer.shown : Answer → List Record
  | .record (some r) => [r]
  | .records rs => rs
  | .verified (some u) _ => [u.record]
  | _ => []

/-- The records of the rows of a table; those of two tables are never handed back. -/
def Tables.records (t : Tables) : TableName → List Record
  | .users => t.users.map User.record
  | .sessions => t.sessions.map Session.record
  | .oauthStates => t.oauthStates.map OAuthState.record
  | .enrollments => t.enrollments.map Enrollment.record
  | .wallets => t.wallets.map Wallet.record
  | .passkeyCredentials => t.passkeyCredentials.map PasskeyCredential.record
  | .passkeyChallenges => t.passkeyChallenges.map PasskeyChallenge.record
  | .emailVerifications | .oauthLinks => []

open Plan

/-! ## Stores -/

/-- Every record of the answer is of a row before or after. -/
def ShowsRows {α : Type} (f : α → Record) (rows rows' : List α) (a : Answer) : Prop :=
  ∀ r ∈ a.shown, r ∈ rows.map f ∨ r ∈ rows'.map f

section rows

variable {α : Type} {f : α → Record} {rows rows' : List α} {a : Answer}

theorem showsRows_of_nil (h : a.shown = []) : ShowsRows f rows rows' a := by
  intro r hr
  rw [h] at hr
  cases hr

theorem mem_of_shown_find {p : α → Bool} {r : Record}
    (hr : r ∈ (Answer.record ((rows.find? p).map f)).shown) : r ∈ rows.map f := by
  cases found : rows.find? p with
  | none =>
    rw [found] at hr
    cases hr
  | some x =>
    rw [found] at hr
    rw [List.mem_singleton.mp hr]
    exact List.mem_map_of_mem (List.mem_of_find?_eq_some found)

theorem showsRows_find_before (p : α → Bool) :
    ShowsRows f rows rows' (.record ((rows.find? p).map f)) :=
  fun _ hr => Or.inl (mem_of_shown_find hr)

theorem showsRows_find_after (p : α → Bool) :
    ShowsRows f rows rows' (.record ((rows'.find? p).map f)) :=
  fun _ hr => Or.inr (mem_of_shown_find hr)

theorem showsRows_sorted (p : α → Bool) (le : α → α → Bool) :
    ShowsRows f rows rows' (.records (((rows.filter p).mergeSort le).map f)) := by
  intro r hr
  obtain ⟨x, hx, rfl⟩ := List.mem_map.mp hr
  exact Or.inl (List.mem_map_of_mem (List.mem_of_mem_filter (List.mem_mergeSort.mp hx)))

theorem showsRows_new {new : α} : ShowsRows f rows (rows ++ [new]) (.record (some (f new))) := by
  intro r hr
  rw [List.mem_singleton.mp hr]
  exact Or.inr (List.mem_map_of_mem (by simp))

end rows

variable (ctx : Context)

theorem Accounts.shows (r : Accounts.Request) :
    Ensures (fun s s' a => ShowsRows User.record s.1 s'.1 a) (Accounts.plan ctx r) := by
  have onUsers : ∀ {plan : Plan (List User)}, Ensures (ShowsRows User.record) (.ok plan) →
      Ensures (fun s s' a => ShowsRows User.record s.1 s'.1 a)
        ((Except.ok plan : Except Fault (Plan (List User))).map Accounts.onUsers) :=
    fun h => ensures_on h (fun _ => rfl) fun _ _ _ h => h
  cases r with
  | create id email hash name verified => exact onUsers (ensures_insert fun _ => showsRows_new)
  | get id => exact onUsers (ensures_update fun _ => showsRows_find_before _)
  | getByEmail email => exact onUsers (ensures_update fun _ => showsRows_find_before _)
  | verifyEmail id =>
    refine ensures_update fun s => ?_
    unfold Accounts.verifyEmail
    cases found : Accounts.find? id s.1 with
    | none => exact showsRows_of_nil rfl
    | some u =>
      intro r hr
      rw [List.mem_singleton.mp hr]
      have marked : Accounts.verified ctx.clock u ∈
          Rows.change (·.userId == id) (Accounts.verified ctx.clock) s.1 :=
        Rows.mem_change.mpr
          ⟨u, List.mem_of_find?_eq_some found, if_pos (List.find?_some found)⟩
      exact Or.inr (List.mem_map_of_mem marked)
  | setPasswordHash id hash => exact onUsers (ensures_update fun _ => showsRows_of_nil rfl)
  | setDisplayName id name => exact onUsers (ensures_update fun _ => showsRows_of_nil rfl)

theorem Sessions.shows (r : Sessions.Request) :
    Ensures (ShowsRows Session.record) (Sessions.plan ctx r) := by
  cases r with
  | create id user hash given => exact ensures_insert fun _ => showsRows_new
  | find hash => exact ensures_update fun _ => showsRows_find_before _
  | _ => exact ensures_update fun _ => showsRows_of_nil rfl

theorem EmailTokens.shows (r : EmailTokens.Request) :
    Ensures (fun _ _ a => a.shown = []) (EmailTokens.plan ctx r) := by
  cases r with
  | create id user hash given => exact ensures_insert fun _ => rfl
  | _ => exact ensures_update fun _ => rfl

theorem IdentityLinks.shows (r : IdentityLinks.Request) :
    Ensures (fun _ _ a => a.shown = []) (IdentityLinks.plan ctx r) := by
  cases r with
  | link provider subject user email => exact ensures_map fun _ => ensures_update fun _ => rfl
  | find provider subject =>
    simp only [IdentityLinks.plan]
    split
    · exact ensures_update fun _ => rfl
    · exact ensures_answered fun _ => rfl

theorem OAuthStates.shows (r : OAuthStates.Request) :
    Ensures (ShowsRows OAuthState.record) (OAuthStates.plan ctx r) := by
  cases r with
  | create id provider uri given =>
    exact ensures_map fun _ => ensures_insert fun _ => showsRows_of_nil rfl
  | consume id => exact ensures_update fun _ => showsRows_find_before _
  | purge => exact ensures_update fun _ => showsRows_of_nil rfl

theorem PasskeyChallenges.shows (r : PasskeyChallenges.Request) :
    Ensures (ShowsRows PasskeyChallenge.record) (PasskeyChallenges.plan ctx r) := by
  cases r with
  | create id challenge flow given user email =>
    exact ensures_map fun _ => ensures_insert fun _ => showsRows_of_nil rfl
  | consume id => exact ensures_update fun _ => showsRows_find_before _
  | purge => exact ensures_update fun _ => showsRows_of_nil rfl

theorem Wallets.shows (r : Wallets.Request) :
    Ensures (ShowsRows Wallet.record) (Wallets.plan ctx r) := by
  cases r with
  | create user account seed key network =>
    refine ensures_update fun rows => showsRows_of_nil ?_
    unfold Wallets.insert
    split <;> rfl
  | get user => exact ensures_update fun _ => showsRows_find_before _
  | acknowledge user => exact ensures_update fun _ => showsRows_find_after _

theorem PasskeyCredentials.shows (r : PasskeyCredentials.Request) :
    Ensures (ShowsRows PasskeyCredential.record) (PasskeyCredentials.plan ctx r) := by
  cases r with
  | register r transports =>
    exact ensures_map fun _ => ensures_update fun _ => showsRows_find_after _
  | setCounter id counter => exact ensures_update fun _ => showsRows_of_nil rfl
  | get id => exact ensures_update fun _ => showsRows_find_before _
  | listForUser user => exact ensures_update fun _ => showsRows_sorted _ _
  | remove id user => exact ensures_update fun _ => showsRows_of_nil rfl

/-- A token that is checked hands back the node that was found, or nothing. -/
theorem showsRows_checkToken (id raw : String) (rows : List Enrollment) :
    ShowsRows Enrollment.record rows rows (Enrollments.checkToken id raw rows) := by
  unfold Enrollments.checkToken
  split
  · exact showsRows_of_nil rfl
  · next e found =>
    split
    · intro r hr
      rw [List.mem_singleton.mp hr]
      exact Or.inl (List.mem_map_of_mem (List.mem_of_find?_eq_some found))
    · exact showsRows_of_nil rfl

theorem Enrollments.shows (r : Enrollments.Request) :
    Ensures (ShowsRows Enrollment.record) (Enrollments.plan ctx r) := by
  cases r with
  | enroll id kind owner email hash verified =>
    exact ensures_map fun _ => ensures_update fun _ => showsRows_find_after _
  | approve id value => exact ensures_update fun _ => showsRows_find_after _
  | verifyOwner owner => exact ensures_update fun _ => showsRows_of_nil rfl
  | touch id form =>
    simp only [Enrollments.plan]
    split
    · exact ensures_update fun _ => showsRows_find_after _
    · exact ensures_error _
  | get id => exact ensures_update fun _ => showsRows_find_before _
  | listByOwner owner => exact ensures_update fun _ => showsRows_sorted _ _
  | checkToken id raw => exact ensures_update fun _ => showsRows_checkToken id raw _

/-! ## Calls -/

/-- A record that is handed back is the record of a row before or after the call. -/
theorem Call.shows (c : Call) :
    Ensures (fun t u a => ∀ r ∈ a.shown, ∃ n, r ∈ t.records n ∨ r ∈ u.records n) (c.plan ctx) := by
  cases c with
  | accounts r =>
    exact ensures_on (Accounts.shows ctx r) (fun _ => rfl) fun _ _ _ h r hr => ⟨.users, h r hr⟩
  | sessions r =>
    exact ensures_on (Sessions.shows ctx r) (fun _ => rfl) fun _ _ _ h r hr => ⟨.sessions, h r hr⟩
  | emailTokens r =>
    refine ensures_on (EmailTokens.shows ctx r) (fun _ => rfl) fun _ _ _ h r hr => ?_
    rw [h] at hr
    cases hr
  | identityLinks r =>
    refine ensures_on (IdentityLinks.shows ctx r) (fun _ => rfl) fun _ _ _ h r hr => ?_
    rw [h] at hr
    cases hr
  | oauthStates r =>
    exact ensures_on (OAuthStates.shows ctx r) (fun _ => rfl)
      fun _ _ _ h r hr => ⟨.oauthStates, h r hr⟩
  | enrollments r =>
    exact ensures_on (Enrollments.shows ctx r) (fun _ => rfl)
      fun _ _ _ h r hr => ⟨.enrollments, h r hr⟩
  | wallets r =>
    exact ensures_on (Wallets.shows ctx r) (fun _ => rfl) fun _ _ _ h r hr => ⟨.wallets, h r hr⟩
  | passkeyChallenges r =>
    exact ensures_on (PasskeyChallenges.shows ctx r) (fun _ => rfl)
      fun _ _ _ h r hr => ⟨.passkeyChallenges, h r hr⟩
  | passkeyCredentials r =>
    exact ensures_on (PasskeyCredentials.shows ctx r) (fun _ => rfl)
      fun _ _ _ h r hr => ⟨.passkeyCredentials, h r hr⟩
  | purgeExpired =>
    refine ensures_update fun t r hr => ?_
    cases hr

end AccountPortal

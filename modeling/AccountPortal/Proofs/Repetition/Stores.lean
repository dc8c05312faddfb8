import AccountPortal.Proofs.Effect
import AccountPortal.Proofs.Rows

/-!
# Requests that are made twice

A request of any store that is made again, with nothing in between, leaves its tables as the first
one left them, whatever it answers:

    Plan.Settles (c.plan ctx)                                                   (Call.settles)

A create meets its own row the second time. A change, a removal and an upsert come to the same rows,
an upsert although it adds a row first and changes that row then.
-/

namespace AccountPortal

/-! ## Plans -/

namespace Plan

variable {σ τ : Type}

/-- Whatever was planned changes nothing when it is carried out again. -/
def Settles (planned : Except Fault (Plan σ)) : Prop :=
  ∀ s s₁ a₁ s₂ a₂, effectOf planned s = .ok (s₁, a₁) → effectOf planned s₁ = .ok (s₂, a₂) → s₂ = s₁

theorem settles_error (f : Fault) : Settles (.error f : Except Fault (Plan σ)) := by
  intro s s₁ a₁ s₂ a₂ first
  cases first

theorem settles_answered (a : Answer) : Settles (.ok (.answered a : Plan σ)) := by
  intro s s₁ a₁ s₂ a₂ _ second
  cases second
  rfl

theorem settles_transaction {integers : List Int} {body : σ → Except Fault (σ × Answer)}
    (h : ∀ s s₁ a₁ s₂ a₂, body s = .ok (s₁, a₁) → body s₁ = .ok (s₂, a₂) → s₂ = s₁) :
    Settles (.ok (.transaction integers body)) := by
  intro s s₁ a₁ s₂ a₂ first second
  exact h s s₁ a₁ s₂ a₂ (effect_transaction_eq_ok_iff.mp first).2
    (effect_transaction_eq_ok_iff.mp second).2

theorem settles_update {integers : List Int} {write : σ → σ × Answer}
    (h : ∀ s, (write (write s).1).1 = (write s).1) : Settles (.ok (.update integers write)) := by
  intro s s₁ a₁ s₂ a₂ first second
  obtain ⟨-, rfl, -⟩ := effect_update_eq_ok_iff.mp first
  obtain ⟨-, rfl, -⟩ := effect_update_eq_ok_iff.mp second
  exact h s

theorem settles_query (read : σ → Answer) : Settles (.ok (.query read)) :=
  settles_update fun _ => rfl

theorem settles_map {α : Type} {planned : Except Fault α} {plan : α → Plan σ}
    (h : ∀ a, Settles (.ok (plan a))) : Settles (planned.map plan) := by
  cases planned with
  | error f => exact settles_error f
  | ok a => exact h a

/-- A plan on a part of the tables settles them all. -/
theorem settles_on {get : τ → σ} {set : σ → τ → τ} {planned : Except Fault (Plan σ)}
    (h : Settles planned) (hkeep : ∀ t, set (get t) t = t) (hget : ∀ s t, get (set s t) = s)
    (hset : ∀ s s' t, set s' (set s t) = set s' t) : Settles (planned.map (Plan.on get set)) := by
  intro t t₁ a₁ t₂ a₂ first second
  obtain ⟨s₁, hs₁, rfl⟩ := exists_of_effectOf_on first hkeep
  obtain ⟨s₂, hs₂, rfl⟩ := exists_of_effectOf_on second hkeep
  rw [hget] at hs₂
  rw [hset, h _ _ _ _ _ hs₁ hs₂]

end Plan

open Plan

/-! ## Creates -/

/-- A row that was added takes its own keys. -/
theorem Rows.insert_settles {α : Type} {taken : α → Bool} {rows rows₁ rows₂ : List α} {new : α}
    {f : Fault} {a₁ a₂ b : Answer} (hnew : taken new = true)
    (first : (if rows.any taken then Except.error f else .ok (rows ++ [new], b)) = .ok (rows₁, a₁))
    (second : (if rows₁.any taken then Except.error f else .ok (rows₁ ++ [new], b)) =
      .ok (rows₂, a₂)) : rows₂ = rows₁ := by
  obtain ⟨-, rfl, -⟩ := eq_of_insert_ok first
  obtain ⟨free, -, -⟩ := eq_of_insert_ok second
  have hfree := free new (by simp)
  rw [hnew] at hfree
  cases hfree

/-! ## Stores -/

variable (ctx : Context)

theorem Sessions.settles (r : Sessions.Request) : Settles (Sessions.plan ctx r) := by
  cases r with
  | create id user hash given =>
    apply settles_transaction
    intro rows rows₁ a₁ rows₂ a₂ first second
    exact Rows.insert_settles (by simp) first second
  | find hash =>
    apply settles_transaction
    intro rows rows₁ a₁ rows₂ a₂ first second
    cases first
    cases second
    rfl
  | logOut hash => exact settles_update fun _ => Rows.remove_remove
  | logOutUser user => exact settles_update fun _ => Rows.remove_remove
  | purge => exact settles_update fun _ => Rows.remove_remove

theorem EmailTokens.settles (r : EmailTokens.Request) : Settles (EmailTokens.plan ctx r) := by
  cases r with
  | create id user hash given =>
    apply settles_transaction
    intro rows rows₁ a₁ rows₂ a₂ first second
    exact Rows.insert_settles (by simp) first second
  | consume hash => exact settles_update fun _ => Rows.change_change fun _ _ _ => rfl
  | purge => exact settles_update fun _ => Rows.remove_remove

theorem OAuthStates.settles (r : OAuthStates.Request) : Settles (OAuthStates.plan ctx r) := by
  cases r with
  | create id provider uri given =>
    apply settles_map
    intro p
    apply settles_transaction
    intro rows rows₁ a₁ rows₂ a₂ first second
    exact Rows.insert_settles (by simp) first second
  | consume id => exact settles_update fun _ => Rows.remove_remove
  | purge => exact settles_update fun _ => Rows.remove_remove

theorem PasskeyChallenges.settles (r : PasskeyChallenges.Request) :
    Settles (PasskeyChallenges.plan ctx r) := by
  cases r with
  | create id challenge flow given user email =>
    apply settles_map
    intro f
    apply settles_transaction
    intro rows rows₁ a₁ rows₂ a₂ first second
    exact Rows.insert_settles (by simp) first second
  | consume id => exact settles_update fun _ => Rows.remove_remove
  | purge => exact settles_update fun _ => Rows.remove_remove

theorem IdentityLinks.settles (r : IdentityLinks.Request) : Settles (IdentityLinks.plan ctx r) := by
  cases r with
  | link provider subject user email =>
    apply settles_map
    intro p
    apply settles_update
    intro rows
    exact Rows.upsert_upsert (by simp [isOf]) rfl fun r hr => ⟨hr, rfl⟩
  | find provider subject =>
    simp only [IdentityLinks.plan]
    split
    · exact settles_query _
    · exact settles_answered _

theorem Wallets.settles (r : Wallets.Request) : Settles (Wallets.plan ctx r) := by
  cases r with
  | create user account seed key network =>
    apply settles_update
    intro rows
    unfold insert
    by_cases hany : rows.any (·.userId == user) = true
    · rw [if_pos hany, if_pos hany]
    · rw [if_neg hany, if_pos (by simp)]
  | get user => exact settles_query _
  | acknowledge user =>
    apply settles_update
    intro rows
    apply Rows.change_change
    intro r _ _
    cases hr : r.acknowledgedAt <;> simp [acknowledged, hr]

theorem PasskeyCredentials.settles (r : PasskeyCredentials.Request) :
    Settles (PasskeyCredentials.plan ctx r) := by
  cases r with
  | register r transports =>
    apply settles_map
    intro ts
    apply settles_update
    intro rows
    exact Rows.upsert_upsert (by simp) rfl fun r hr => ⟨hr, rfl⟩
  | setCounter id counter => exact settles_update fun _ => Rows.change_change fun _ _ _ => rfl
  | get id => exact settles_query _
  | listForUser user => exact settles_query _
  | remove id user => exact settles_update fun _ => Rows.remove_remove

/-- A patch leaves what it wrote as it is. -/
theorem Enrollments.touched_touched (patch : ValidationPatch) (now : Int) (e : Enrollment) :
    touched patch now (touched patch now e) = touched patch now e := by
  obtain ⟨ip, country, vpn⟩ := patch
  cases ip <;> cases country <;> cases vpn <;> rfl

theorem Enrollments.verifyOwner_verifyOwner (owner : String) (now : Int) (rows : List Enrollment) :
    (verifyOwner owner now (verifyOwner owner now rows).1).1 = (verifyOwner owner now rows).1 :=
  Rows.change_change fun _ _ _ => rfl

theorem Enrollments.settles (r : Enrollments.Request) : Settles (Enrollments.plan ctx r) := by
  cases r with
  | enroll id kind owner email hash verified =>
    apply settles_map
    intro k
    apply settles_update
    intro rows
    exact Rows.upsert_upsert (by simp) rfl fun e he => ⟨he, rfl⟩
  | approve id value => exact settles_update fun _ => Rows.change_change fun _ _ _ => rfl
  | verifyOwner owner =>
    exact settles_update fun rows => verifyOwner_verifyOwner owner ctx.clock rows
  | touch id form =>
    simp only [Enrollments.plan]
    split
    · exact settles_update fun _ => Rows.change_change fun e _ _ => touched_touched _ _ e
    · exact settles_error _
  | get id => exact settles_query _
  | listByOwner owner => exact settles_query _
  | checkToken id raw => exact settles_query _

theorem Accounts.settles_onUsers {plan : Plan (List User)} (h : Settles (.ok plan)) :
    Settles (.ok (onUsers plan)) := by
  have settled : Settles ((Except.ok plan : Except Fault (Plan (List User))).map onUsers) :=
    settles_on h (fun _ => rfl) (fun _ _ => rfl) fun _ _ _ => rfl
  exact settled

theorem Accounts.verified_verified (now : Int) (u : User) :
    verified now (verified now u) = verified now u := by
  cases hu : u.verifiedAt <;> simp [verified, hu]

/-- A user who is known stays known, so the second time the same nodes are told. -/
theorem Accounts.verifyEmail_settles (id : String) (now : Int) (s : List User × List Enrollment) :
    let once := (verifyEmail id now s.1 s.2).1
    (verifyEmail id now once.1 once.2).1 = once := by
  unfold verifyEmail
  cases hfind : find? id s.1 with
  | none => simp only [hfind]
  | some u =>
    have again : find? id (Rows.change (·.userId == id) (verified now) s.1) =
        some (verified now u) := by
      unfold find? at hfind ⊢
      rw [Rows.find?_change (p := (·.userId == id)) (f := verified now) fun u hu => hu, hfind]
      rfl
    simp only [again]
    rw [Enrollments.verifyOwner_verifyOwner,
      Rows.change_change fun u _ _ => verified_verified now u]

theorem Accounts.settles (r : Accounts.Request) : Settles (Accounts.plan ctx r) := by
  cases r with
  | create id email hash name verified =>
    apply settles_onUsers
    apply settles_transaction
    intro users users₁ a₁ users₂ a₂ first second
    exact Rows.insert_settles (by simp) first second
  | get id => exact settles_onUsers (settles_query _)
  | getByEmail email => exact settles_onUsers (settles_query _)
  | verifyEmail id => exact settles_update fun s => verifyEmail_settles id ctx.clock s
  | setPasswordHash id hash =>
    exact settles_onUsers (settles_update fun _ => Rows.change_change fun _ _ _ => rfl)
  | setDisplayName id name =>
    exact settles_onUsers (settles_update fun _ => Rows.change_change fun _ _ _ => rfl)

/-! ## Calls -/

/-- Whatever call is made again leaves every table as it was. -/
theorem Call.settles (c : Call) : Settles (c.plan ctx) := by
  cases c with
  | accounts r =>
    exact settles_on (Accounts.settles ctx r) (fun _ => rfl) (fun _ _ => rfl) fun _ _ _ => rfl
  | sessions r =>
    exact settles_on (Sessions.settles ctx r) (fun _ => rfl) (fun _ _ => rfl) fun _ _ _ => rfl
  | emailTokens r =>
    exact settles_on (EmailTokens.settles ctx r) (fun _ => rfl) (fun _ _ => rfl) fun _ _ _ => rfl
  | identityLinks r =>
    exact settles_on (IdentityLinks.settles ctx r) (fun _ => rfl) (fun _ _ => rfl) fun _ _ _ => rfl
  | oauthStates r =>
    exact settles_on (OAuthStates.settles ctx r) (fun _ => rfl) (fun _ _ => rfl) fun _ _ _ => rfl
  | enrollments r =>
    exact settles_on (Enrollments.settles ctx r) (fun _ => rfl) (fun _ _ => rfl) fun _ _ _ => rfl
  | wallets r =>
    exact settles_on (Wallets.settles ctx r) (fun _ => rfl) (fun _ _ => rfl) fun _ _ _ => rfl
  | passkeyChallenges r =>
    exact settles_on (PasskeyChallenges.settles ctx r) (fun _ => rfl) (fun _ _ => rfl)
      fun _ _ _ => rfl
  | passkeyCredentials r =>
    exact settles_on (PasskeyCredentials.settles ctx r) (fun _ => rfl) (fun _ _ => rfl)
      fun _ _ _ => rfl
  | purgeExpired =>
    apply settles_update
    intro t
    simp only [Tables.purge, Sessions.purge, EmailTokens.purge, OAuthStates.purge,
      PasskeyChallenges.purge, Rows.purge, Rows.remove_remove]

end AccountPortal

import AccountPortal.Proofs.Secret.Requests

/-!
# Calls with other secrets

A call and the same call with other secrets (`Call.withSecrets`), on tables that are the same but
for their secrets, do the same but for secrets (`Call.twins_withSecrets`). The log cannot tell what
they come out with:

    SameEnd Answer.Alike out out' → (c.withSecrets m x).report ctx out' = c.report ctx out
                                                                            (report_withSecrets)
-/

namespace AccountPortal

variable {m : Hashes} {x : Secrets} {ctx : Context}

open Plan (Agrees)

variable (m x) in
/-- The same call with other secrets, and with the hashes that it looks up gone over. -/
def Call.withSecrets : Call → Call
  | .accounts r => .accounts (r.withSecrets x)
  | .sessions r => .sessions (r.withSecrets m)
  | .emailTokens r => .emailTokens (r.withSecrets m)
  | .enrollments r => .enrollments (r.withSecrets x)
  | .wallets r => .wallets (r.withSecrets x)
  | .passkeyChallenges r => .passkeyChallenges (r.withSecrets x)
  | .passkeyCredentials r => .passkeyCredentials (r.withSecrets x)
  | c => c

/-! ## Calls -/

namespace Tables

variable {t t' : Tables}

/-- The purge looks at no secrets. -/
theorem agrees_purge (h : Tables.Alike m t t') (now : Int) :
    Agrees (Tables.Alike m) Answer.Alike ((Plan.update [now] (Tables.purge now)).effect t)
      ((Plan.update [now] (Tables.purge now)).effect t') := by
  have session : ∀ r r' : Session, r' = r.rehashed m → (!r'.isLive now) = !r.isLive now := by
    rintro r _ rfl
    rfl
  have token : ∀ r r' : EmailToken, r' = r.rehashed m → (!r'.isLive now) = !r.isLive now := by
    rintro r _ rfl
    rfl
  have challenge : ∀ r r' : PasskeyChallenge, r.Alike r' → (!r'.isLive now) = !r.isLive now := by
    rintro r _ ⟨c, rfl⟩
    rfl
  refine Plan.agrees_update _ ?_ ?_
  · exact { h with
      sessions := Rows.remove_rel h.sessions session
      emailTokens := Rows.remove_rel h.emailTokens token
      oauthStates := by rw [Tables.purge, Tables.purge, h.oauthStates]
      passkeyChallenges := Rows.remove_rel h.passkeyChallenges challenge }
  · show Answer.Alike (.purged _ _ _ _) (.purged _ _ _ _)
    rw [Rows.countP_rel h.sessions session, Rows.countP_rel h.emailTokens token, h.oauthStates,
      Rows.countP_rel h.passkeyChallenges challenge]
    exact .same _

end Tables

namespace Call

variable {c : Call} {t t' : Tables} {a a' : Answer}

/-- A token is checked to the same end for a node that both tables have. -/
def ChecksAlike (c c' : Call) (t t' : Tables) : Prop :=
  ∀ r r', c = .enrollments r → c' = .enrollments r' →
    r.ChecksAlike r' t.enrollments t'.enrollments

theorem agrees_withSecrets (inj : m.Injective) (h : Tables.Alike m t t') (c : Call)
    (checks : c.ChecksAlike (c.withSecrets m x) t t') :
    Agrees (Tables.Alike m) Answer.Alike (c.effect ctx t) ((c.withSecrets m x).effect ctx t') := by
  cases c with
  | accounts r =>
    refine Plan.agrees_on (fun _ => rfl) (Accounts.agrees_withSecrets h.users h.enrollments r) ?_
    exact fun _ _ rows => { h with users := rows.1, enrollments := rows.2 }
  | sessions r =>
    exact Plan.agrees_on (fun _ => rfl) (Sessions.agrees_withSecrets inj h.sessions r)
      fun _ _ rows => { h with sessions := rows }
  | emailTokens r =>
    exact Plan.agrees_on (fun _ => rfl) (EmailTokens.agrees_withSecrets inj h.emailTokens r)
      fun _ _ rows => { h with emailTokens := rows }
  | identityLinks r =>
    exact Plan.agrees_on_same (fun _ => rfl) h.identityLinks .same
      fun _ => { h with identityLinks := rfl }
  | oauthStates r =>
    exact Plan.agrees_on_same (fun _ => rfl) h.oauthStates .same
      fun _ => { h with oauthStates := rfl }
  | enrollments r =>
    exact Plan.agrees_on (fun _ => rfl)
      (Enrollments.agrees_withSecrets h.enrollments r (checks r _ rfl rfl))
      fun _ _ rows => { h with enrollments := rows }
  | wallets r =>
    exact Plan.agrees_on (fun _ => rfl) (Wallets.agrees_withSecrets h.wallets r)
      fun _ _ rows => { h with wallets := rows }
  | passkeyChallenges r =>
    exact Plan.agrees_on (fun _ => rfl)
      (PasskeyChallenges.agrees_withSecrets h.passkeyChallenges r)
      fun _ _ rows => { h with passkeyChallenges := rows }
  | passkeyCredentials r =>
    exact Plan.agrees_on (fun _ => rfl)
      (PasskeyCredentials.agrees_withSecrets h.passkeyCredentials r)
      fun _ _ rows => { h with passkeyCredentials := rows }
  | purgeExpired => exact Tables.agrees_purge h ctx.clock

variable (m x) in
theorem forms_withSecrets (c : Call) : (c.withSecrets m x).forms = c.forms := by
  cases c with
  | accounts r => cases r <;> rfl
  | sessions r => cases r <;> rfl
  | emailTokens r => cases r <;> rfl
  | enrollments r => cases r <;> rfl
  | wallets r => cases r <;> rfl
  | passkeyChallenges r => cases r <;> rfl
  | passkeyCredentials r => cases r <;> rfl
  | _ => rfl

variable (m x) in
theorem refusal?_withSecrets (c : Call) : (c.withSecrets m x).refusal? = c.refusal? := by
  cases c with
  | enrollments r => cases r <;> rfl
  | _ => rfl

variable (m x) in
/-- The integers that a call binds are no secrets. -/
theorem outline_withSecrets (ctx : Context) (c : Call) :
    (c.withSecrets m x).outline ctx = c.outline ctx := by
  cases c with
  | accounts r => cases r <;> rfl
  | sessions r => cases r <;> rfl
  | emailTokens r => cases r <;> rfl
  | enrollments r =>
    cases r with
    | enroll id kind owner email hash verified =>
      simp only [outline, withSecrets, Enrollments.Request.withSecrets, plan, Enrollments.plan]
      cases (Choice.coerce "node kind" kind : Except Fault NodeKind) <;> rfl
    | checkToken id raw =>
      -- each plan on its own: side by side they would have the two tokens hashed
      have unbound (raw : String) :
          (Call.enrollments (.checkToken id raw)).outline ctx = .ok (.inr []) := rfl
      exact (unbound x.rawToken).trans (unbound raw).symm
    | _ => rfl
  | wallets r => cases r <;> rfl
  | passkeyChallenges r =>
    cases r with
    | create id challenge flow given user email =>
      simp only [outline, withSecrets, PasskeyChallenges.Request.withSecrets, plan,
        PasskeyChallenges.plan]
      cases (Choice.coerce "passkey flow" flow : Except Fault PasskeyFlow) <;> rfl
    | _ => rfl
  | passkeyCredentials r =>
    cases r with
    | register r transports =>
      simp only [outline, withSecrets, PasskeyCredentials.Request.withSecrets, plan,
        PasskeyCredentials.plan]
      cases canonicalTransports transports <;> rfl
    | _ => rfl
  | _ => rfl

/-- On tables that are the same but for secrets, and on which a token is checked to one end. -/
theorem twins_withSecrets (inj : m.Injective) (ctx : Context) (c : Call) :
    c.Twins ctx (fun t t' => Tables.Alike m t t' ∧ c.ChecksAlike (c.withSecrets m x) t t')
      Answer.Alike (c.withSecrets m x) := by
  refine ⟨outline_withSecrets m x ctx c, forms_withSecrets m x c, ?_, .same⟩
  rintro t t' ⟨alike, checks⟩
  have agrees : Agrees (Tables.Alike m) Answer.Alike (c.effect ctx t)
      ((c.withSecrets m x).effect ctx t') := agrees_withSecrets inj alike c checks
  by_cases check : ∃ id raw, c = .enrollments (.checkToken id raw)
  · obtain ⟨id, raw, rfl⟩ := check
    have left (raw : String) (t : Tables) : (Call.enrollments (.checkToken id raw)).effect ctx t =
        .ok (t, Enrollments.checkToken id raw t.enrollments) := rfl
    have same : (Call.enrollments (.checkToken id raw)).withSecrets m x =
        .enrollments (.checkToken id x.rawToken) := rfl
    rw [same, left, left] at agrees ⊢
    cases agrees with
    | ok tables answers => exact .ok ⟨tables, checks⟩ answers
  · generalize c.effect ctx t = y, (c.withSecrets m x).effect ctx t' = y' at agrees
    cases agrees with
    | error f => exact .error f
    | ok tables answers =>
      refine .ok ⟨tables, ?_⟩ answers
      rintro r - rfl - id raw raw' rfl
      exact absurd ⟨id, raw, rfl⟩ check

/-! ## The log -/

/-- The log cannot tell answers that are alike: of a record it shows the state of a node at most. -/
theorem report_congr (h : Answer.Alike a a') (ctx : Context) (c : Call) :
    c.report ctx (.ok a') = c.report ctx (.ok a) := by
  cases c with
  | enrollments r =>
    cases h with
    | enrollment state =>
      cases r with
      | enroll id kind owner email hash verified =>
        simp only [report, Enrollments.report, Enrollments.stateText, state]
      | approve id value => simp only [report, Enrollments.report, Enrollments.stateText, state]
      | _ => rfl
    | _ => cases r <;> rfl
  | accounts r => cases h <;> cases r <;> rfl
  | sessions r => cases h <;> cases r <;> rfl
  | emailTokens r => cases h <;> cases r <;> rfl
  | identityLinks r => cases h <;> cases r <;> rfl
  | oauthStates r => cases h <;> cases r <;> rfl
  | wallets r => cases h <;> cases r <;> rfl
  | passkeyChallenges r => cases h <;> cases r <;> rfl
  | passkeyCredentials r => cases h <;> cases r <;> rfl
  | purgeExpired => cases h <;> rfl

variable (m x) in
/-- What is logged of a call names no secret of it. -/
theorem report_of_same (ctx : Context) (c : Call) (out : Except Fault Answer) :
    (c.withSecrets m x).report ctx out = c.report ctx out := by
  cases c with
  | accounts r =>
    cases r with
    | create id email hash name verified =>
      cases out with
      | ok a => rfl
      | error f => cases f <;> rfl
    | _ => rfl
  | sessions r => cases r <;> rfl
  | emailTokens r =>
    cases r with
    | consume hash =>
      cases out with
      | ok a =>
        cases a with
        | owner user => cases user <;> rfl
        | _ => rfl
      | error f => rfl
    | _ => rfl
  | enrollments r =>
    cases r with
    | enroll id kind owner email hash verified =>
      cases out with
      | ok a =>
        cases a with
        | record found =>
          cases found with
          | none => rfl
          | some r => cases r <;> rfl
        | _ => rfl
      | error f => rfl
    | checkToken id raw =>
      cases out with
      | ok a => cases a <;> rfl
      | error f => rfl
    | _ => rfl
  | wallets r =>
    cases r with
    | create user account seed key network =>
      cases out with
      | ok a =>
        cases a with
        | flag b => cases b <;> rfl
        | _ => rfl
      | error f => rfl
    | _ => rfl
  | passkeyChallenges r => cases r <;> rfl
  | passkeyCredentials r =>
    cases r with
    | register r transports => cases out <;> rfl
    | _ => rfl
  | _ => rfl

theorem report_withSecrets {out out' : Except Fault Answer} (h : SameEnd Answer.Alike out out')
    (ctx : Context) (c : Call) : (c.withSecrets m x).report ctx out' = c.report ctx out := by
  rw [report_of_same]
  cases h with
  | error f => rfl
  | ok alike => exact report_congr alike ctx c

end Call

end AccountPortal

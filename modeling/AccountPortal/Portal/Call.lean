import AccountPortal.Store.Accounts
import AccountPortal.Store.EmailTokens
import AccountPortal.Store.IdentityLinks
import AccountPortal.Store.OAuthStates
import AccountPortal.Store.PasskeyChallenges
import AccountPortal.Store.PasskeyCredentials
import AccountPortal.Store.Sessions
import AccountPortal.Store.Wallets
import AccountPortal.TableName

/-!
# Calls

The tables of the portal, and the calls that its nine stores take: each is carried out on its own
tables. Main definitions: `Tables`, `Call`, `Call.plan`, `Call.refusal?`, `Call.report`.
-/

namespace AccountPortal

structure Tables where
  users : List User
  sessions : List Session
  emailTokens : List EmailToken
  identityLinks : List IdentityLink
  oauthStates : List OAuthState
  enrollments : List Enrollment
  wallets : List Wallet
  passkeyCredentials : List PasskeyCredential
  passkeyChallenges : List PasskeyChallenge

namespace Tables

def empty : Tables := ⟨[], [], [], [], [], [], [], [], []⟩

/-- Removes the dead rows of the four ledgers. -/
def purge (now : Int) (t : Tables) : Tables × Answer :=
  ({ t with
      sessions := (Sessions.purge now t.sessions).1
      emailTokens := (EmailTokens.purge now t.emailTokens).1
      oauthStates := (OAuthStates.purge now t.oauthStates).1
      passkeyChallenges := (PasskeyChallenges.purge now t.passkeyChallenges).1 },
    .purged (t.sessions.countP (!·.isLive now)) (t.emailTokens.countP (!·.isLive now))
      (t.oauthStates.countP (!·.isLive now)) (t.passkeyChallenges.countP (!·.isLive now)))

/-! ## Contents -/

/-- The rows by their keys, as columns. -/
def sortedColumns {α : Type} [Row α] (rows : List α) : List (Fields Value) :=
  (rows.mergeSort fun a b => decide ((Row.key a).map utf8 ≤ (Row.key b).map utf8)).map Row.columns

def contents (t : Tables) : TableName → List (Fields Value)
  | .users => sortedColumns t.users
  | .sessions => sortedColumns t.sessions
  | .emailVerifications => sortedColumns t.emailTokens
  | .oauthLinks => sortedColumns t.identityLinks
  | .oauthStates => sortedColumns t.oauthStates
  | .enrollments => sortedColumns t.enrollments
  | .wallets => sortedColumns t.wallets
  | .passkeyCredentials => sortedColumns t.passkeyCredentials
  | .passkeyChallenges => sortedColumns t.passkeyChallenges

end Tables

inductive Call where
  | accounts (r : Accounts.Request)
  | sessions (r : Sessions.Request)
  | emailTokens (r : EmailTokens.Request)
  | identityLinks (r : IdentityLinks.Request)
  | oauthStates (r : OAuthStates.Request)
  | enrollments (r : Enrollments.Request)
  | wallets (r : Wallets.Request)
  | passkeyChallenges (r : PasskeyChallenges.Request)
  | passkeyCredentials (r : PasskeyCredentials.Request)
  | purgeExpired

namespace Call

def plan (ctx : Context) : Call → Except Fault (Plan Tables)
  | .accounts r =>
    (Accounts.plan ctx r).map (Plan.on (fun t => (t.users, t.enrollments))
      fun s t => { t with users := s.1, enrollments := s.2 })
  | .sessions r =>
    (Sessions.plan ctx r).map (Plan.on (·.sessions) fun rows t => { t with sessions := rows })
  | .emailTokens r =>
    (EmailTokens.plan ctx r).map
      (Plan.on (·.emailTokens) fun rows t => { t with emailTokens := rows })
  | .identityLinks r =>
    (IdentityLinks.plan ctx r).map
      (Plan.on (·.identityLinks) fun rows t => { t with identityLinks := rows })
  | .oauthStates r =>
    (OAuthStates.plan ctx r).map
      (Plan.on (·.oauthStates) fun rows t => { t with oauthStates := rows })
  | .enrollments r =>
    (Enrollments.plan ctx r).map
      (Plan.on (·.enrollments) fun rows t => { t with enrollments := rows })
  | .wallets r =>
    (Wallets.plan ctx r).map (Plan.on (·.wallets) fun rows t => { t with wallets := rows })
  | .passkeyChallenges r =>
    (PasskeyChallenges.plan ctx r).map
      (Plan.on (·.passkeyChallenges) fun rows t => { t with passkeyChallenges := rows })
  | .passkeyCredentials r =>
    (PasskeyCredentials.plan ctx r).map
      (Plan.on (·.passkeyCredentials) fun rows t => { t with passkeyCredentials := rows })
  | .purgeExpired => .ok (.update [ctx.clock] (Tables.purge ctx.clock))

/-- The fault of a form that comes with the call and is refused before anything is planned. -/
def refusal? : Call → Option Fault
  | .enrollments (.touch _ form) =>
    match Enrollments.patchOf form with
    | .ok _ => none
    | .error issues => some (.invalid issues)
  | _ => none

/-- What is logged of a call and its outcome. -/
def report (ctx : Context) : Call → Except Fault Answer → List LogEntry
  | .accounts r, out => Accounts.report r out
  | .sessions r, out => Sessions.report r out
  | .emailTokens r, out => EmailTokens.report r out
  | .identityLinks r, out => IdentityLinks.report r out
  | .oauthStates r, out => OAuthStates.report r out
  | .enrollments r, out => Enrollments.report r out
  | .wallets r, out => Wallets.report ctx r out
  | .passkeyChallenges r, out => PasskeyChallenges.report r out
  | .passkeyCredentials r, out => PasskeyCredentials.report r out
  | .purgeExpired, .ok (.purged s e _ _) => Sessions.purgeReport s ++ EmailTokens.purgeReport e
  | .purgeExpired, _ => []

end Call

end AccountPortal

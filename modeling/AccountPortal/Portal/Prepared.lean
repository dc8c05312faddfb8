import AccountPortal.Portal.Call

/-!
# Prepared statements

A statement is prepared when it is met for the first time while its table is there, and stays
prepared whatever becomes of the table. Two statements that differ in their values alone are one.
Only statements that bind integers are kept track of: of no other one can it be told whether it was
prepared. Each connection prepares for itself, and idle connections take turns. Main definitions:
`StatementForm`, `Call.forms`, `Call.transactions`, `Connection`, `Connection.turn`.
-/

namespace AccountPortal

/-- A statement without its values. -/
inductive StatementForm where
  | createUser
  | verifyUser
  | createSession
  | findSession
  | purgeSessions
  | createEmailToken
  | consumeEmailToken
  | purgeEmailTokens
  | linkIdentity
  | createOAuthState
  | consumeOAuthState
  | purgeOAuthStates
  | enroll
  | approve (approved : Bool)
  | verifyOwner
  | touch (columns : List String)
  | createWallet
  | acknowledgeWallet
  | createChallenge
  | consumeChallenge
  | purgeChallenges
  | registerCredential
  | setCounter
  deriving DecidableEq

namespace Call

/-- The statements of a call, in order. -/
def forms : Call → List StatementForm
  | .accounts (.create ..) => [.createUser]
  | .accounts (.verifyEmail _) => [.verifyUser, .verifyOwner]
  | .sessions (.create ..) => [.createSession]
  | .sessions (.find _) => [.findSession]
  | .sessions .purge => [.purgeSessions]
  | .emailTokens (.create ..) => [.createEmailToken]
  | .emailTokens (.consume _) => [.consumeEmailToken]
  | .emailTokens .purge => [.purgeEmailTokens]
  | .identityLinks (.link ..) => [.linkIdentity]
  | .oauthStates (.create ..) => [.createOAuthState]
  | .oauthStates (.consume _) => [.consumeOAuthState]
  | .oauthStates .purge => [.purgeOAuthStates]
  | .enrollments (.enroll ..) => [.enroll]
  | .enrollments (.approve _ value) => [.approve value]
  | .enrollments (.verifyOwner _) => [.verifyOwner]
  | .enrollments (.touch _ form) =>
    match Enrollments.patchOf form with
    | .ok patch => [.touch patch.names]
    | .error _ => []
  | .wallets (.create ..) => [.createWallet]
  | .wallets (.acknowledge _) => [.acknowledgeWallet]
  | .passkeyChallenges (.create ..) => [.createChallenge]
  | .passkeyChallenges (.consume _) => [.consumeChallenge]
  | .passkeyChallenges .purge => [.purgeChallenges]
  | .passkeyCredentials (.register ..) => [.registerCredential]
  | .passkeyCredentials (.setCounter ..) => [.setCounter]
  | .purgeExpired => [.purgeSessions, .purgeEmailTokens, .purgeOAuthStates, .purgeChallenges]
  | _ => []

/-- The transactions that a call got through or failed in, each with its statements up to the one
that met a key in use, an integer out of range or no user of the given id. -/
def transactions (ctx : Context) (c : Call) (out : Except Fault Answer) :
    List (List StatementForm) :=
  match c.plan ctx, out with
  | .ok (.transaction ..), .ok (.verified none _) => [c.forms.take 1]
  | .ok (.transaction ..), .ok (.purged ..) => c.forms.map ([·])
  | .ok (.transaction ..), .ok _ => [c.forms]
  | .ok (.transaction ..), .error .schemaMissing => [[]]
  | .ok (.transaction ..), .error _ => [c.forms.take 1]
  | _, _ => []

end Call

/-! ## Connections -/

/-- What a connection has prepared. -/
abbrev Connection := List StatementForm

namespace Connection

/-- Nothing is prepared on a new connection. -/
def fresh : Connection := []

def prepare (conn : Connection) (forms : List StatementForm) : Connection :=
  forms.foldl (fun known form => known.insert form) conn

/-- Whether the statement that a call starts with is prepared. -/
def knows (conn : Connection) (c : Call) : Bool := c.forms.head?.any conn.contains

/-- The idle connection that waits longest, or a new one. -/
def next (idle : List Connection) : Connection := idle.head?.getD fresh

/-- A transaction on the next connection, which then waits behind the others. -/
def turn (idle : List Connection) (forms : List StatementForm) : List Connection :=
  idle.drop 1 ++ [(next idle).prepare forms]

end Connection

end AccountPortal

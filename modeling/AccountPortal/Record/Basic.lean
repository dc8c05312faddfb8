import AccountPortal.Record.Row

/-!
# Records

What the portal hands back of a row. Main definitions: `Record`, `Record.fields`, and `record` for
each kind of row that is handed back.
-/

namespace AccountPortal

inductive Record where
  | user (u : User)
  | session (sessionId userId : String) (expiresAt : Int)
  | oauthState (provider : Provider) (redirectUri : String)
  | enrollment (e : Enrollment)
  | wallet (w : Wallet)
  | passkeyChallenge (userId email : Option String) (challenge : String) (flow : PasskeyFlow)
  | passkeyCredential (c : PasskeyCredential)
  deriving DecidableEq

/-- The fields of a record; an enrollment also shows its state. -/
def Record.fields : Record → Fields Value
  | .user u => Row.columns u
  | .session id owner expiry =>
    [("session_id", .text id), ("user_id", .text owner), ("expires_at_ms", .int expiry)]
  | .oauthState provider uri => [("provider", Choice.value provider), ("redirect_uri", .text uri)]
  | .enrollment e => Fields.put (Row.columns e) "state" (Choice.value e.state)
  | .wallet w => Row.columns w
  | .passkeyChallenge owner email challenge flow =>
    [("user_id", .optText owner), ("email", .optText email), ("challenge", .text challenge),
     ("flow_type", Choice.value flow)]
  | .passkeyCredential c => c.plainColumns.put "transports" (transportsValue c.transports)

/-! ## Of rows -/

def User.record (r : User) : Record := .user r

def Session.record (r : Session) : Record := .session r.sessionId r.userId r.expiresAt

def OAuthState.record (r : OAuthState) : Record := .oauthState r.provider r.redirectUri

def Enrollment.record (r : Enrollment) : Record := .enrollment r

def Wallet.record (r : Wallet) : Record := .wallet r

def PasskeyChallenge.record (r : PasskeyChallenge) : Record :=
  .passkeyChallenge r.userId r.email r.challenge r.flow

def PasskeyCredential.record (r : PasskeyCredential) : Record := .passkeyCredential r

end AccountPortal

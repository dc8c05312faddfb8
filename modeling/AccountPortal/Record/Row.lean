import AccountPortal.Choice

/-!
# Rows

One structure for the rows of each table, with the text of its key and its columns by name. Times
are milliseconds. Main definitions: the nine row structures and `Row`.
-/

namespace AccountPortal

/-- What every kind of row has: a key of one or more texts, and named columns. -/
class Row (α : Type) where
  key : α → List String
  columns : α → Fields Value

namespace Value

def optText (s : Option String) : Value := ofOption .text s

def optInt (n : Option Int) : Value := ofOption .int n

def optFlag (b : Option Bool) : Value := ofOption .flag b

end Value

structure User where
  userId : String
  email : String
  emailVerified : Bool
  passwordHash : Option String
  displayName : Option String
  createdAt : Int
  verifiedAt : Option Int
  deriving DecidableEq, Inhabited

instance : Row User where
  key r := [r.userId]
  columns r :=
    [("user_id", .text r.userId), ("email", .text r.email),
     ("email_verified", .flag r.emailVerified),
     ("password_hash", .optText r.passwordHash), ("display_name", .optText r.displayName),
     ("created_at_ms", .int r.createdAt), ("verified_at_ms", .optInt r.verifiedAt)]

structure Session where
  sessionId : String
  userId : String
  tokenHash : String
  expiresAt : Int
  createdAt : Int
  deriving DecidableEq, Inhabited

instance : Row Session where
  key r := [r.sessionId]
  columns r :=
    [("session_id", .text r.sessionId), ("user_id", .text r.userId),
     ("token_hash", .text r.tokenHash), ("expires_at_ms", .int r.expiresAt), ("created_at_ms", .int r.createdAt)]

structure EmailToken where
  tokenId : String
  userId : String
  tokenHash : String
  expiresAt : Int
  consumedAt : Option Int
  createdAt : Int
  deriving DecidableEq, Inhabited

instance : Row EmailToken where
  key r := [r.tokenId]
  columns r :=
    [("token_id", .text r.tokenId), ("user_id", .text r.userId), ("token_hash", .text r.tokenHash),
     ("expires_at_ms", .int r.expiresAt), ("consumed_at_ms", .optInt r.consumedAt),
     ("created_at_ms", .int r.createdAt)]

structure IdentityLink where
  provider : Provider
  subject : String
  userId : String
  emailSnapshot : Option String
  createdAt : Int
  deriving DecidableEq, Inhabited

instance : Row IdentityLink where
  key r := [Choice.text r.provider, r.subject]
  columns r :=
    [("provider", Choice.value r.provider), ("provider_subject", .text r.subject),
     ("user_id", .text r.userId), ("email_snapshot", .optText r.emailSnapshot),
     ("created_at_ms", .int r.createdAt)]

structure OAuthState where
  stateId : String
  provider : Provider
  redirectUri : String
  expiresAt : Int
  createdAt : Int
  deriving DecidableEq, Inhabited

instance : Row OAuthState where
  key r := [r.stateId]
  columns r :=
    [("state_id", .text r.stateId), ("provider", Choice.value r.provider),
     ("redirect_uri", .text r.redirectUri), ("expires_at_ms", .int r.expiresAt),
     ("created_at_ms", .int r.createdAt)]

structure Enrollment where
  nodeId : String
  nodeKind : NodeKind
  ownerUserId : String
  ownerEmail : String
  registrationTokenHash : String
  emailVerified : Bool
  nodeApproved : Bool
  active : Bool
  lastSeen : Option Int
  lastIp : Option String
  lastCountryCode : Option String
  lastVpnDetected : Option Bool
  createdAt : Int
  updatedAt : Int
  deriving DecidableEq, Inhabited

def Enrollment.state (r : Enrollment) : EnrollmentState :=
  enrollmentState r.nodeApproved r.emailVerified

instance : Row Enrollment where
  key r := [r.nodeId]
  columns r :=
    [("node_id", .text r.nodeId), ("node_kind", Choice.value r.nodeKind),
     ("owner_user_id", .text r.ownerUserId), ("owner_email", .text r.ownerEmail),
     ("registration_token_hash", .text r.registrationTokenHash),
     ("email_verified", .flag r.emailVerified), ("node_approved", .flag r.nodeApproved),
     ("active", .flag r.active), ("last_seen_ms", .optInt r.lastSeen),
     ("last_ip", .optText r.lastIp), ("last_country_code", .optText r.lastCountryCode),
     ("last_vpn_detected", .optFlag r.lastVpnDetected), ("created_at_ms", .int r.createdAt),
     ("updated_at_ms", .int r.updatedAt)]

structure Wallet where
  userId : String
  accountId : String
  network : String
  seedPhraseHash : String
  encryptedPrivateKeyRef : String
  createdAt : Int
  acknowledgedAt : Option Int
  deriving DecidableEq, Inhabited

instance : Row Wallet where
  key r := [r.userId]
  columns r :=
    [("user_id", .text r.userId), ("account_id", .text r.accountId), ("network", .text r.network),
     ("seed_phrase_hash", .text r.seedPhraseHash),
     ("encrypted_private_key_ref", .text r.encryptedPrivateKeyRef),
     ("created_at_ms", .int r.createdAt), ("acknowledged_at_ms", .optInt r.acknowledgedAt)]

structure PasskeyChallenge where
  challengeId : String
  userId : Option String
  email : Option String
  challenge : String
  flow : PasskeyFlow
  expiresAt : Int
  createdAt : Int
  deriving DecidableEq, Inhabited

instance : Row PasskeyChallenge where
  key r := [r.challengeId]
  columns r :=
    [("challenge_id", .text r.challengeId), ("user_id", .optText r.userId),
     ("email", .optText r.email), ("challenge", .text r.challenge), ("flow_type", Choice.value r.flow),
     ("expires_at_ms", .int r.expiresAt), ("created_at_ms", .int r.createdAt)]

structure PasskeyCredential where
  credentialId : String
  userId : String
  webauthnUserId : String
  publicKey : String
  counter : Int
  deviceType : String
  backedUp : Bool
  transports : Option (List Transport)
  createdAt : Int
  lastUsedAt : Option Int
  deriving DecidableEq, Inhabited

def transportsValue (ts : Option (List Transport)) : Value :=
  Value.ofOption (fun l => .list (l.map Choice.value)) ts

/-- The columns but the one for the transports. -/
def PasskeyCredential.plainColumns (r : PasskeyCredential) : Fields Value :=
  [("credential_id", .text r.credentialId), ("user_id", .text r.userId),
   ("webauthn_user_id", .text r.webauthnUserId), ("public_key_b64url", .text r.publicKey),
   ("counter", .int r.counter), ("device_type", .text r.deviceType),
   ("backed_up", .flag r.backedUp), ("created_at_ms", .int r.createdAt),
   ("last_used_at_ms", .optInt r.lastUsedAt)]

instance : Row PasskeyCredential where
  key r := [r.credentialId]
  columns r := r.plainColumns.put "transports_json" (transportsValue r.transports)

end AccountPortal

import AccountPortal.Credential.Cookie
import AccountPortal.Form.Field

/-!
# Settings

Twelve settings, each with a name of its own and a name in the environment. They are read from a
form that may use either name, the environment's winning; production refuses the pepper that
everyone knows. Main definitions: `Settings.ofForm`, `Settings.ofEnvironment`, `databaseUrl?`.
-/

namespace AccountPortal

inductive Environment where
  | development
  | production
  | test
  deriving DecidableEq, Inhabited

instance : Choice Environment where
  all := [.development, .production, .test]
  text
    | .development => "development"
    | .production => "production"
    | .test => "test"

inductive Network where
  | bitcoin
  | testnet
  | signet
  deriving DecidableEq, Inhabited

instance : Choice Network where
  all := [.bitcoin, .testnet, .signet]
  text
    | .bitcoin => "bitcoin"
    | .testnet => "testnet"
    | .signet => "signet"

/-- The pepper of a development set-up. -/
def developmentPepper : String := "edgecoder-dev-pepper"

structure Settings where
  databaseUrl : String
  environment : Environment
  walletSecretPepper : String
  walletDefaultNetwork : Network
  sessionTtl : Int
  emailVerifyTtl : Int
  oauthStateTtl : Int
  passkeyChallengeTtl : Int
  poolSize : Int
  busyTimeout : Binary64
  echoSql : Bool
  logLevel : String
  deriving DecidableEq

namespace Settings

/-- Thirty seconds. -/
def thirty : Binary64 := .ofDigits false 30 0

def standard : Settings where
  databaseUrl := "sqlite+aiosqlite:///./edgecoder_portal.db"
  environment := .development
  walletSecretPepper := developmentPepper
  walletDefaultNetwork := .signet
  sessionTtl := 7 * 24 * 60 * 60 * 1000
  emailVerifyTtl := 24 * 60 * 60 * 1000
  oauthStateTtl := 10 * 60 * 1000
  passkeyChallengeTtl := 300000
  poolSize := 5
  busyTimeout := thirty
  echoSql := false
  logLevel := "INFO"

/-! ## Names -/

inductive Key where
  | databaseUrl
  | environment
  | walletSecretPepper
  | walletDefaultNetwork
  | sessionTtl
  | emailVerifyTtl
  | oauthStateTtl
  | passkeyChallengeTtl
  | poolSize
  | busyTimeout
  | echoSql
  | logLevel
  deriving DecidableEq

namespace Key

def all : List Key :=
  [.databaseUrl, .environment, .walletSecretPepper, .walletDefaultNetwork, .sessionTtl,
   .emailVerifyTtl, .oauthStateTtl, .passkeyChallengeTtl, .poolSize, .busyTimeout, .echoSql,
   .logLevel]

def name : Key → String
  | .databaseUrl => "database_url"
  | .environment => "environment"
  | .walletSecretPepper => "wallet_secret_pepper"
  | .walletDefaultNetwork => "wallet_default_network"
  | .sessionTtl => "session_ttl_ms"
  | .emailVerifyTtl => "email_verify_ttl_ms"
  | .oauthStateTtl => "oauth_state_ttl_ms"
  | .passkeyChallengeTtl => "passkey_challenge_ttl_ms"
  | .poolSize => "pool_size"
  | .busyTimeout => "busy_timeout_seconds"
  | .echoSql => "echo_sql"
  | .logLevel => "log_level"

/-- The name in the environment. -/
def envName : Key → String
  | .databaseUrl => "PORTAL_DATABASE_URL"
  | .environment => "PORTAL_ENV"
  | .walletSecretPepper => "WALLET_SECRET_PEPPER"
  | .walletDefaultNetwork => "WALLET_DEFAULT_NETWORK"
  | .sessionTtl => "PORTAL_SESSION_TTL_MS"
  | .emailVerifyTtl => "PORTAL_EMAIL_VERIFY_TTL_MS"
  | .oauthStateTtl => "PORTAL_OAUTH_STATE_TTL_MS"
  | .passkeyChallengeTtl => "PASSKEY_CHALLENGE_TTL_MS"
  | .poolSize => "PORTAL_DB_POOL_SIZE"
  | .busyTimeout => "PORTAL_DB_BUSY_TIMEOUT_S"
  | .echoSql => "PORTAL_DB_ECHO"
  | .logLevel => "PORTAL_LOG_LEVEL"

end Key

/-- The value given for a setting and the name it was given under; the environment's name wins. -/
def given? (form : Fields Value) (key : Key) : Option (String × Value) :=
  match form.get? key.envName with
  | some v => some (key.envName, v)
  | none => (form.get? key.name).map fun v => (key.name, v)

/-- A setting that is not given keeps its standard value. -/
def setting {α : Type} (form : Fields Value) (key : Key) (read : Reader α) (standard : α) :
    Checked α :=
  match given? form key with
  | some (name, v) => checkField read name v
  | none => .ok standard

/-! ## Reading -/

def readPositive : Reader Int := bounded readInteger (0 < ·) .notPositive

/-- Every field by its own reader, without the check of the whole. -/
def ofFields (form : Fields Value) : Checked Settings :=
  .app (.app (.app (.app (.app (.app (.app (.app (.app (.app (.app (.app (.ok Settings.mk)
    (setting form .databaseUrl readText standard.databaseUrl))
    (setting form .environment readListed standard.environment))
    (setting form .walletSecretPepper readText standard.walletSecretPepper))
    (setting form .walletDefaultNetwork readListed standard.walletDefaultNetwork))
    (setting form .sessionTtl readPositive standard.sessionTtl))
    (setting form .emailVerifyTtl readPositive standard.emailVerifyTtl))
    (setting form .oauthStateTtl readPositive standard.oauthStateTtl))
    (setting form .passkeyChallengeTtl readPositive standard.passkeyChallengeTtl))
    (setting form .poolSize (bounded readInteger (1 ≤ ·) .belowOne) standard.poolSize))
    (setting form .busyTimeout (bounded readNumber Binary64.isPositive .notPositive)
      standard.busyTimeout))
    (setting form .echoSql readFlag standard.echoSql))
    (setting form .logLevel readText standard.logLevel)

/-- Production needs a pepper of its own. -/
def isSafe (s : Settings) : Bool :=
  !(s.environment == .production && s.walletSecretPepper == developmentPepper)

def ofForm (form : Fields Value) : Checked Settings :=
  match ofFields form with
  | .ok s => if s.isSafe then .ok s else .error [⟨none, .knownPepper⟩]
  | .error issues => .error issues

/-- Only the environment's own names count. -/
def ofEnvironment (env : Fields String) : Checked Settings :=
  ofForm ((env.filter fun e => Key.all.any (·.envName == e.1)).map fun e => (e.1, .text e.2))

/-! ## What follows from them -/

def isProduction (s : Settings) : Bool := s.environment == .production

/-- Cookies are kept to secure channels in production only. -/
def secureCookies (s : Settings) : Bool := s.isProduction

def isSqlite (s : Settings) : Bool := "sqlite".toList.isPrefixOf s.databaseUrl.toList

/-- A cookie lives as long as a session unless told otherwise. -/
def encodeCookie (s : Settings) (name value : String) (maxAge : Option Int) : String :=
  Cookie.encode name value (maxAge.getD (s.sessionTtl / 1000)) s.secureCookies

def clearCookie (s : Settings) (name : String) : String := Cookie.clear name s.secureCookies

end Settings

/-- The database that the environment names, trimmed; none when it is blank. -/
def databaseUrl? (env : Fields String) : Option String :=
  let url := trim ((env.get? Settings.Key.databaseUrl.envName).getD "")
  if url = "" then none else some url

end AccountPortal

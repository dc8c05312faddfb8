import AccountPortal.Schema.Catalog
import AccountPortal.TableName

/-!
# Layout

The nine tables as the portal declares them, and how a file is brought to hold them or to be rid of
them. Main definitions: `Layout.tables`, `Layout.createAll`, `Layout.dropAll`.
-/

namespace AccountPortal.Layout

/-! ## Columns -/

def textColumn (name : String) : Column := ⟨name, .varchar none, true, none⟩

def integerColumn (name : String) : Column := ⟨name, .bigint, true, none⟩

def flagColumn (name : String) : Column := ⟨name, .boolean, true, none⟩

def orNull (c : Column) : Column := { c with notNull := false }

/-! ## Tables -/

/-- A table with the columns that have an index of their own. -/
structure Declared where
  table : TableSpec
  indexed : List String

/-- An index on a column is named after its table and column. -/
def indexName (table column : String) : String := "ix_" ++ table ++ "_" ++ column

def Declared.indexes (d : Declared) : List IndexSpec :=
  d.indexed.map fun col => ⟨indexName d.table.name col, d.table.name, [col]⟩

def Declared.statements (d : Declared) : List Statement :=
  .createTable d.table :: d.indexes.map .createIndex

def users : TableSpec where
  name := Choice.text TableName.users
  columns :=
    [textColumn "user_id", textColumn "email", flagColumn "email_verified",
     orNull (textColumn "password_hash"), orNull (textColumn "display_name"),
     integerColumn "created_at_ms", orNull (integerColumn "verified_at_ms")]
  key := ["user_id"]
  unique := [["email"]]

def sessions : TableSpec where
  name := Choice.text TableName.sessions
  columns :=
    [textColumn "session_id", textColumn "user_id", textColumn "token_hash",
     integerColumn "expires_at_ms", integerColumn "created_at_ms"]
  key := ["session_id"]
  unique := [["token_hash"]]

def emailVerifications : TableSpec where
  name := Choice.text TableName.emailVerifications
  columns :=
    [textColumn "token_id", textColumn "user_id", textColumn "token_hash",
     integerColumn "expires_at_ms", orNull (integerColumn "consumed_at_ms"),
     integerColumn "created_at_ms"]
  key := ["token_id"]
  unique := [["token_hash"]]

def oauthLinks : TableSpec where
  name := Choice.text TableName.oauthLinks
  columns :=
    [textColumn "provider", textColumn "provider_subject", textColumn "user_id",
     orNull (textColumn "email_snapshot"), integerColumn "created_at_ms"]
  key := ["provider", "provider_subject"]
  unique := []

def oauthStates : TableSpec where
  name := Choice.text TableName.oauthStates
  columns :=
    [textColumn "state_id", textColumn "provider", textColumn "redirect_uri",
     integerColumn "expires_at_ms", integerColumn "created_at_ms"]
  key := ["state_id"]
  unique := []

def enrollments : TableSpec where
  name := Choice.text TableName.enrollments
  columns :=
    [textColumn "node_id", textColumn "node_kind", textColumn "owner_user_id",
     textColumn "owner_email", textColumn "registration_token_hash", flagColumn "email_verified",
     flagColumn "node_approved", flagColumn "active", orNull (integerColumn "last_seen_ms"),
     orNull (textColumn "last_ip"), orNull (textColumn "last_country_code"),
     orNull (flagColumn "last_vpn_detected"), integerColumn "created_at_ms",
     integerColumn "updated_at_ms"]
  key := ["node_id"]
  unique := []

def wallets : TableSpec where
  name := Choice.text TableName.wallets
  columns :=
    [textColumn "user_id", textColumn "account_id", textColumn "network",
     textColumn "seed_phrase_hash", textColumn "encrypted_private_key_ref",
     integerColumn "created_at_ms", orNull (integerColumn "acknowledged_at_ms")]
  key := ["user_id"]
  unique := []

def passkeyCredentials : TableSpec where
  name := Choice.text TableName.passkeyCredentials
  columns :=
    [textColumn "credential_id", textColumn "user_id", textColumn "webauthn_user_id",
     textColumn "public_key_b64url", integerColumn "counter", textColumn "device_type",
     flagColumn "backed_up", ⟨"transports_json", .json, false, none⟩,
     integerColumn "created_at_ms", orNull (integerColumn "last_used_at_ms")]
  key := ["credential_id"]
  unique := []

def passkeyChallenges : TableSpec where
  name := Choice.text TableName.passkeyChallenges
  columns :=
    [textColumn "challenge_id", orNull (textColumn "user_id"), orNull (textColumn "email"),
     textColumn "challenge", textColumn "flow_type", integerColumn "expires_at_ms",
     integerColumn "created_at_ms"]
  key := ["challenge_id"]
  unique := []

def tables : List Declared :=
  [⟨users, []⟩, ⟨sessions, ["user_id"]⟩, ⟨emailVerifications, ["user_id"]⟩,
   ⟨oauthLinks, ["user_id"]⟩, ⟨oauthStates, []⟩, ⟨enrollments, ["owner_user_id"]⟩, ⟨wallets, []⟩,
   ⟨passkeyCredentials, ["user_id"]⟩, ⟨passkeyChallenges, []⟩]

/-! ## All at once -/

/-- Creates what is missing; a table that exists is left as it is. -/
def createAll (c : Catalog) : Catalog × Bool :=
  c.script ((tables.filter fun d => !c.hasTable d.table.name).flatMap Declared.statements)

/-- Drops what is there. -/
def dropAll (c : Catalog) : Catalog × Bool :=
  c.script (((tables.filter fun d => c.hasTable d.table.name).map fun d =>
    Statement.dropTable d.table.name).reverse)

end AccountPortal.Layout

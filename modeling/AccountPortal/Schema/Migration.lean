import AccountPortal.Schema.Layout

/-!
# Migration

A file can also be brought to its tables by the one migration there is, and back; a table of its own
remembers whether the file has been migrated. Main definitions: `Migration.up`, `Migration.down`,
`SchemaFile.step`.
-/

namespace AccountPortal

namespace Migration

/-! ## Statements -/

/-- Flags named here are false where a row does not give them. -/
def defaultFalse (names : List String) (t : TableSpec) : TableSpec :=
  { t with columns := t.columns.map fun c =>
      if names.contains c.name then { c with default := some "0" } else c }

def up : List Statement :=
  [.createTable (defaultFalse ["email_verified"] Layout.users),
   .createTable Layout.sessions,
   .createIndex ⟨"ix_portal_sessions_user_id", "portal_sessions", ["user_id"]⟩,
   .createTable Layout.emailVerifications,
   .createIndex
    ⟨"ix_portal_email_verifications_user_id", "portal_email_verifications", ["user_id"]⟩,
   .createTable Layout.oauthLinks,
   .createIndex ⟨"ix_portal_oauth_links_user_id", "portal_oauth_links", ["user_id"]⟩,
   .createTable Layout.oauthStates,
   .createTable (defaultFalse ["email_verified", "node_approved", "active"] Layout.enrollments),
   .createIndex
    ⟨"ix_portal_node_enrollments_owner_user_id", "portal_node_enrollments", ["owner_user_id"]⟩,
   .createTable Layout.wallets,
   .createTable Layout.passkeyCredentials,
   .createIndex
    ⟨"ix_portal_passkey_credentials_user_id", "portal_passkey_credentials", ["user_id"]⟩,
   .createTable Layout.passkeyChallenges]

def down : List Statement :=
  [.dropTable "portal_passkey_challenges",
   .dropIndex "ix_portal_passkey_credentials_user_id",
   .dropTable "portal_passkey_credentials",
   .dropTable "portal_wallet_onboarding",
   .dropIndex "ix_portal_node_enrollments_owner_user_id",
   .dropTable "portal_node_enrollments",
   .dropTable "portal_oauth_states",
   .dropIndex "ix_portal_oauth_links_user_id",
   .dropTable "portal_oauth_links",
   .dropIndex "ix_portal_email_verifications_user_id",
   .dropTable "portal_email_verifications",
   .dropIndex "ix_portal_sessions_user_id",
   .dropTable "portal_sessions",
   .dropTable "portal_users"]

/-- The table that remembers the migration. -/
def versionTable : TableSpec where
  name := "alembic_version"
  columns := [⟨"version_num", .varchar (some 32), true, none⟩]
  key := ["version_num"]
  unique := []

/-- The script for a new file, by the heads of its statements. -/
def offline : List String := (.createTable versionTable :: up).map Statement.head

end Migration

/-! ## Files -/

structure SchemaFile where
  catalog : Catalog
  /-- Whether the version table says that the file was migrated. -/
  stamped : Bool
  deriving DecidableEq

namespace SchemaFile

def empty : SchemaFile := ⟨.empty, false⟩

/-- A file that was not migrated gets the version table before anything else is done to it. -/
def prepare (f : SchemaFile) : SchemaFile :=
  if f.stamped || f.catalog.hasTable Migration.versionTable.name then f
  else
    { f with catalog := { f.catalog with tables := f.catalog.tables ++ [Migration.versionTable] } }

inductive Step where
  | createAll
  | dropAll
  | upgrade
  | downgrade
  deriving DecidableEq

/-- Whether the step succeeds, and what it leaves. The stamp changes only when all went well. -/
def step (f : SchemaFile) : Step → SchemaFile × Bool
  | .createAll =>
    let (c, ok) := Layout.createAll f.catalog
    ({ f with catalog := c }, ok)
  | .dropAll =>
    let (c, ok) := Layout.dropAll f.catalog
    ({ f with catalog := c }, ok)
  | .upgrade =>
    let f := f.prepare
    if f.stamped then (f, true)
    else
      let (c, ok) := f.catalog.script Migration.up
      (⟨c, ok⟩, ok)
  | .downgrade =>
    let f := f.prepare
    if f.stamped then
      let (c, ok) := f.catalog.script Migration.down
      (⟨c, !ok⟩, ok)
    else (f, true)

end SchemaFile

end AccountPortal

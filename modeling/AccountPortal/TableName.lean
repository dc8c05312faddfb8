import AccountPortal.Choice

/-!
# The nine tables

Main definition: `TableName`, with the name each table has in the database.
-/

namespace AccountPortal

inductive TableName where
  | users
  | sessions
  | emailVerifications
  | oauthLinks
  | oauthStates
  | enrollments
  | wallets
  | passkeyCredentials
  | passkeyChallenges
  deriving DecidableEq, Inhabited

instance : Choice TableName where
  all := [.users, .sessions, .emailVerifications, .oauthLinks, .oauthStates, .enrollments,
    .wallets, .passkeyCredentials, .passkeyChallenges]
  text
    | .users => "portal_users"
    | .sessions => "portal_sessions"
    | .emailVerifications => "portal_email_verifications"
    | .oauthLinks => "portal_oauth_links"
    | .oauthStates => "portal_oauth_states"
    | .enrollments => "portal_node_enrollments"
    | .wallets => "portal_wallet_onboarding"
    | .passkeyCredentials => "portal_passkey_credentials"
    | .passkeyChallenges => "portal_passkey_challenges"

end AccountPortal

import AccountPortal.Form.Field
import AccountPortal.Record.Basic

/-!
# Reading records

A record is read from the columns of a row, all issues collected: columns that the record does not
have are ignored, and the transports of a credential are the known ones among those stored. Main
definition: `RecordKind.read`.
-/

namespace AccountPortal

/-! ## Readers -/

def readUser (row : Fields Value) : Checked User :=
  .app (.app (.app (.app (.app (.app (.app (.ok User.mk)
    (required row "user_id" readText))
    (required row "email" readText))
    (required row "email_verified" readFlag))
    (optional row "password_hash" readText))
    (optional row "display_name" readText))
    (required row "created_at_ms" readInteger))
    (optional row "verified_at_ms" readInteger)

def readSession (row : Fields Value) : Checked Record :=
  .app (.app (.app (.ok Record.session)
    (required row "session_id" readText))
    (required row "user_id" readText))
    (required row "expires_at_ms" readInteger)

def readOAuthState (row : Fields Value) : Checked Record :=
  .app (.app (.ok Record.oauthState)
    (required row "provider" readMember))
    (required row "redirect_uri" readText)

def readEnrollment (row : Fields Value) : Checked Enrollment :=
  .app (.app (.app (.app (.app (.app (.app (.app (.app (.app (.app (.app (.app (.app
    (.ok Enrollment.mk)
    (required row "node_id" readText))
    (required row "node_kind" readMember))
    (required row "owner_user_id" readText))
    (required row "owner_email" readText))
    (required row "registration_token_hash" readText))
    (required row "email_verified" readFlag))
    (required row "node_approved" readFlag))
    (required row "active" readFlag))
    (optional row "last_seen_ms" readInteger))
    (optional row "last_ip" readText))
    (optional row "last_country_code" readText))
    (optional row "last_vpn_detected" readFlag))
    (required row "created_at_ms" readInteger))
    (required row "updated_at_ms" readInteger)

def readWallet (row : Fields Value) : Checked Wallet :=
  .app (.app (.app (.app (.app (.app (.app (.ok Wallet.mk)
    (required row "user_id" readText))
    (required row "account_id" readText))
    (required row "network" readText))
    (required row "seed_phrase_hash" readText))
    (required row "encrypted_private_key_ref" readText))
    (required row "created_at_ms" readInteger))
    (optional row "acknowledged_at_ms" readInteger)

def readPasskeyChallenge (row : Fields Value) : Checked Record :=
  .app (.app (.app (.app (.ok Record.passkeyChallenge)
    (optional row "user_id" readText))
    (optional row "email" readText))
    (required row "challenge" readText))
    (required row "flow_type" readMember)

def readPasskeyCredential (transports : Option (List Transport)) (row : Fields Value) :
    Checked PasskeyCredential :=
  .app (.app (.app (.app (.app (.app (.app (.app (.app (.ok fun id owner webauthn key counter device
        backedUp created used => ⟨id, owner, webauthn, key, counter, device, backedUp, transports,
        created, used⟩)
    (required row "credential_id" readText))
    (required row "user_id" readText))
    (required row "webauthn_user_id" readText))
    (required row "public_key_b64url" readText))
    (required row "counter" readInteger))
    (required row "device_type" readText))
    (required row "backed_up" readFlag))
    (required row "created_at_ms" readInteger))
    (optional row "last_used_at_ms" readInteger)

/-! ## Stored transports -/

inductive ReadFault where
  | invalid (issues : List Issue)
  /-- Stored transports that are no sequence. -/
  | notSequence (v : Value)
  /-- A stored transport that is a list or a record. -/
  | compound (v : Value)

/-- The values a stored sequence holds: a record holds its names, a text its characters. -/
def sequenceItems? : Value → Option (List Value)
  | .list items => some items
  | .record fields => some (fields.map fun f => .text f.1)
  | .text s => some (s.toList.map fun c => .text (String.singleton c))
  | _ => none

/-- The known transports in the order they stand. -/
def knownTransports : List Value → Except ReadFault (List Transport)
  | [] => .ok []
  | .list items :: _ => .error (.compound (.list items))
  | .record fields :: _ => .error (.compound (.record fields))
  | v :: rest =>
    match Choice.ofValue? v with
    | some t => (knownTransports rest).map (t :: ·)
    | none => knownTransports rest

/-- Nothing for a value that counts as empty, and for one that holds no known transport. -/
def readTransports (v : Value) : Except ReadFault (Option (List Transport)) :=
  if v.truthy then
    match sequenceItems? v with
    | none => .error (.notSequence v)
    | some items => (knownTransports items).map fun ts => if ts.isEmpty then none else some ts
  else .ok none

/-! ## By kind -/

inductive RecordKind where
  | user
  | session
  | oauthState
  | enrollment
  | wallet
  | passkeyChallenge
  | passkeyCredential
  deriving DecidableEq

def Checked.record {α : Type} (c : Checked α) (f : α → Record) : Except ReadFault Record :=
  match c with
  | .ok a => .ok (f a)
  | .error issues => .error (.invalid issues)

def RecordKind.read (kind : RecordKind) (row : Fields Value) : Except ReadFault Record :=
  match kind with
  | .user => (readUser row).record .user
  | .session => (readSession row).record id
  | .oauthState => (readOAuthState row).record id
  | .enrollment => (readEnrollment row).record .enrollment
  | .wallet => (readWallet row).record .wallet
  | .passkeyChallenge => (readPasskeyChallenge row).record id
  | .passkeyCredential =>
    match readTransports ((row.get? "transports_json").getD .null) with
    | .ok ts => (readPasskeyCredential ts row).record .passkeyCredential
    | .error e => .error e

end AccountPortal

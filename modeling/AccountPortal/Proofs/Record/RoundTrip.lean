import AccountPortal.Record.Reading
import AccountPortal.Store.Plan

/-!
# Records read back

What a statement hands back of a row are columns (`Record.columns`), and the record is read from
them after the transaction. Reading never fails, and gives the record that the row is of:

    r.Stored → r.kind.read r.columns = .ok r                                         (read_columns)

The one record that is not read as it is written is that of a credential with an empty list of
transports; such lists are never stored.
-/

namespace AccountPortal

/-! ## Choices -/

/-- Every member is found by its own word. -/
class LawfulChoice (α : Type) [Choice α] : Prop where
  ofValue?_value : ∀ a : α, Choice.ofValue? (Choice.value a) = some a

instance : LawfulChoice NodeKind := ⟨by intro a; cases a <;> decide⟩
instance : LawfulChoice Provider := ⟨by intro a; cases a <;> decide⟩
instance : LawfulChoice PasskeyFlow := ⟨by intro a; cases a <;> decide⟩
instance : LawfulChoice Transport := ⟨by intro a; cases a <;> decide⟩

theorem readMember_value {α : Type} [Choice α] [LawfulChoice α] (a : α) :
    readMember (Choice.value a) = .ok a := by
  unfold readMember
  rw [LawfulChoice.ofValue?_value]

/-! ## Fields -/

section fields

variable {α : Type} {form : Fields Value} {name : String} {read : Reader α}

theorem required_of_get? {v : Value} {a : α} (h : form.get? name = some v) (hv : read v = .ok a) :
    required form name read = .ok a := by
  unfold required checkField
  rw [h]
  simp only [hv]

theorem orNull_ofOption {f : α → Value} (hf : ∀ a, read (f a) = .ok a) (hnull : ∀ a, f a ≠ .null)
    (o : Option α) : orNull read (Value.ofOption f o) = .ok o := by
  cases o with
  | none => rfl
  | some a =>
    show orNull read (f a) = .ok (some a)
    unfold orNull
    split
    · next heq => exact absurd heq (hnull a)
    · rw [hf]
      rfl

theorem optional_of_get? {f : α → Value} {o : Option α}
    (h : form.get? name = some (Value.ofOption f o)) (hf : ∀ a, read (f a) = .ok a)
    (hnull : ∀ a, f a ≠ .null) : optional form name read = .ok o := by
  unfold optional checkField
  rw [h]
  simp only [orNull_ofOption hf hnull]

variable {s : String} {b : Bool} {n : Int}

theorem required_text (h : form.get? name = some (.text s)) :
    required form name readText = .ok s :=
  required_of_get? h rfl

theorem required_flag (h : form.get? name = some (.flag b)) :
    required form name readFlag = .ok b :=
  required_of_get? h rfl

theorem required_int (h : form.get? name = some (.int n)) :
    required form name readInteger = .ok n :=
  required_of_get? h rfl

theorem required_member [Choice α] [LawfulChoice α] {a : α}
    (h : form.get? name = some (Choice.value a)) : required form name readMember = .ok a :=
  required_of_get? h (readMember_value a)

theorem optional_text {o : Option String} (h : form.get? name = some (.optText o)) :
    optional form name readText = .ok o :=
  optional_of_get? h (fun _ => rfl) (by simp)

theorem optional_int {o : Option Int} (h : form.get? name = some (.optInt o)) :
    optional form name readInteger = .ok o :=
  optional_of_get? h (fun _ => rfl) (by simp)

theorem optional_flag {o : Option Bool} (h : form.get? name = some (.optFlag o)) :
    optional form name readFlag = .ok o :=
  optional_of_get? h (fun _ => rfl) (by simp)

end fields

/-! ## Rows -/

theorem readUser_columns (u : User) : readUser (Row.columns u) = .ok u := by
  unfold readUser
  rw [required_text (s := u.userId) rfl, required_text (s := u.email) rfl,
    required_flag (b := u.emailVerified) rfl, optional_text (o := u.passwordHash) rfl,
    optional_text (o := u.displayName) rfl, required_int (n := u.createdAt) rfl,
    optional_int (o := u.verifiedAt) rfl]
  rfl

theorem readEnrollment_columns (e : Enrollment) : readEnrollment (Row.columns e) = .ok e := by
  unfold readEnrollment
  rw [required_text (s := e.nodeId) rfl, required_member (a := e.nodeKind) rfl,
    required_text (s := e.ownerUserId) rfl, required_text (s := e.ownerEmail) rfl,
    required_text (s := e.registrationTokenHash) rfl, required_flag (b := e.emailVerified) rfl,
    required_flag (b := e.nodeApproved) rfl, required_flag (b := e.active) rfl,
    optional_int (o := e.lastSeen) rfl, optional_text (o := e.lastIp) rfl,
    optional_text (o := e.lastCountryCode) rfl, optional_flag (o := e.lastVpnDetected) rfl,
    required_int (n := e.createdAt) rfl, required_int (n := e.updatedAt) rfl]
  rfl

theorem readWallet_columns (w : Wallet) : readWallet (Row.columns w) = .ok w := by
  unfold readWallet
  rw [required_text (s := w.userId) rfl, required_text (s := w.accountId) rfl,
    required_text (s := w.network) rfl, required_text (s := w.seedPhraseHash) rfl,
    required_text (s := w.encryptedPrivateKeyRef) rfl, required_int (n := w.createdAt) rfl,
    optional_int (o := w.acknowledgedAt) rfl]
  rfl

/-! ## Credentials -/

theorem knownTransports_values (ts : List Transport) :
    knownTransports (ts.map Choice.value) = .ok ts := by
  induction ts with
  | nil => rfl
  | cons t rest ih =>
    have known : (Choice.ofValue? (.text (Choice.text t)) : Option Transport) = some t :=
      LawfulChoice.ofValue?_value t
    rw [List.map_cons, Choice.value]
    simp only [knownTransports, known, ih]
    rfl

theorem readTransports_value {ts : Option (List Transport)} (h : ts ≠ some []) :
    readTransports (transportsValue ts) = .ok ts := by
  cases ts with
  | none => rfl
  | some l =>
    have nonempty : l ≠ [] := fun hl => h (congrArg some hl)
    have kept : l.isEmpty = false := by simpa using nonempty
    have truthy : (Value.list (l.map Choice.value)).truthy = true := by
      simp [Value.truthy, kept]
    show readTransports (.list (l.map Choice.value)) = _
    unfold readTransports
    rw [if_pos truthy]
    simp only [sequenceItems?, knownTransports_values, Except.map, kept]
    rfl

/-- A credential whose transports are none or some. -/
def PasskeyCredential.Stored (c : PasskeyCredential) : Prop := c.transports ≠ some []

theorem get?_columns_credential {c : PasskeyCredential} {name : String}
    (h : name ≠ "transports_json") :
    Fields.get? (Row.columns c) name = c.plainColumns.get? name :=
  Fields.get?_put_of_ne _ _ h

theorem readPasskeyCredential_columns (c : PasskeyCredential) :
    readPasskeyCredential c.transports (Row.columns c) = .ok c := by
  unfold readPasskeyCredential
  have plain : ∀ {name : String} {v : Value}, name ≠ "transports_json" →
      c.plainColumns.get? name = some v → Fields.get? (Row.columns c) name = some v :=
    fun h hv => (get?_columns_credential h).trans hv
  rw [required_text (s := c.credentialId) (plain (by decide) rfl),
    required_text (s := c.userId) (plain (by decide) rfl),
    required_text (s := c.webauthnUserId) (plain (by decide) rfl),
    required_text (s := c.publicKey) (plain (by decide) rfl),
    required_int (n := c.counter) (plain (by decide) rfl),
    required_text (s := c.deviceType) (plain (by decide) rfl),
    required_flag (b := c.backedUp) (plain (by decide) rfl),
    required_int (n := c.createdAt) (plain (by decide) rfl),
    optional_int (o := c.lastUsedAt) (plain (by decide) rfl)]
  rfl

/-! ## Records -/

def Record.kind : Record → RecordKind
  | .user _ => .user
  | .session .. => .session
  | .oauthState .. => .oauthState
  | .enrollment _ => .enrollment
  | .wallet _ => .wallet
  | .passkeyChallenge .. => .passkeyChallenge
  | .passkeyCredential _ => .passkeyCredential

/-- What a statement hands back of the row: all columns, or those it is asked for. -/
def Record.columns : Record → Fields Value
  | .user u => Row.columns u
  | .session id owner expiry =>
    [("session_id", .text id), ("user_id", .text owner), ("expires_at_ms", .int expiry)]
  | .oauthState provider uri => [("provider", Choice.value provider), ("redirect_uri", .text uri)]
  | .enrollment e => Row.columns e
  | .wallet w => Row.columns w
  | .passkeyChallenge owner email challenge flow =>
    [("user_id", .optText owner), ("email", .optText email), ("challenge", .text challenge),
     ("flow_type", Choice.value flow)]
  | .passkeyCredential c => Row.columns c

/-- The record of a row that may be stored. -/
def Record.Stored : Record → Prop
  | .passkeyCredential c => c.Stored
  | _ => True

theorem read_columns {r : Record} (h : r.Stored) : r.kind.read r.columns = .ok r := by
  cases r with
  | user u =>
    show (readUser (Row.columns u)).record .user = _
    rw [readUser_columns]
    rfl
  | session key owner expiry =>
    show (readSession (Record.session key owner expiry).columns).record id = _
    unfold readSession
    rw [required_text (s := key) rfl, required_text (s := owner) rfl,
      required_int (n := expiry) rfl]
    rfl
  | oauthState provider uri =>
    show (readOAuthState _).record id = _
    unfold readOAuthState
    rw [required_member (a := provider) rfl, required_text (s := uri) rfl]
    rfl
  | enrollment e =>
    show (readEnrollment (Row.columns e)).record .enrollment = _
    rw [readEnrollment_columns]
    rfl
  | wallet w =>
    show (readWallet (Row.columns w)).record .wallet = _
    rw [readWallet_columns]
    rfl
  | passkeyChallenge owner email challenge flow =>
    show (readPasskeyChallenge _).record id = _
    unfold readPasskeyChallenge
    rw [optional_text (o := owner) rfl, optional_text (o := email) rfl,
      required_text (s := challenge) rfl, required_member (a := flow) rfl]
    rfl
  | passkeyCredential c =>
    have stored : Fields.get? (Row.columns c) "transports_json" =
        some (transportsValue c.transports) := Fields.get?_put_self _ _ _
    show RecordKind.read .passkeyCredential (Row.columns c) = _
    simp only [RecordKind.read, stored, Option.getD_some, readTransports_value h,
      readPasskeyCredential_columns]
    rfl

end AccountPortal

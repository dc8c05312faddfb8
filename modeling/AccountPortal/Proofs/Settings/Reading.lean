import AccountPortal.Proofs.Fields
import AccountPortal.Settings

/-!
# Settings read from a form

Settings are read just when every field is, and they are not the unsafe ones (`ofForm_eq_ok_iff`).
Of an environment only the entries under the settings' own names there are seen, as text, so no
setting is given under another name (`given?_environmentForm`).
-/

namespace AccountPortal

theorem readText_eq_ok_iff {v : Value} {s : String} : readText v = .ok s ↔ v = .text s := by
  cases v <;> simp [readText]

theorem checkField_eq_ok_iff {α : Type} {read : Reader α} {name : String} {v : Value} {a : α} :
    checkField read name v = .ok a ↔ read v = .ok a := by
  unfold checkField
  cases read v <;> simp

namespace Settings

/-! ## Fields -/

/-- Each setting is read where it is given, and is the standard one elsewhere. -/
structure ReadFrom (form : Fields Value) (s : Settings) : Prop where
  databaseUrl : setting form .databaseUrl readText standard.databaseUrl = .ok s.databaseUrl
  environment : setting form .environment readListed standard.environment = .ok s.environment
  walletSecretPepper : setting form .walletSecretPepper readText standard.walletSecretPepper =
    .ok s.walletSecretPepper
  walletDefaultNetwork :
    setting form .walletDefaultNetwork readListed standard.walletDefaultNetwork =
      .ok s.walletDefaultNetwork
  sessionTtl : setting form .sessionTtl readPositive standard.sessionTtl = .ok s.sessionTtl
  emailVerifyTtl : setting form .emailVerifyTtl readPositive standard.emailVerifyTtl =
    .ok s.emailVerifyTtl
  oauthStateTtl : setting form .oauthStateTtl readPositive standard.oauthStateTtl =
    .ok s.oauthStateTtl
  passkeyChallengeTtl :
    setting form .passkeyChallengeTtl readPositive standard.passkeyChallengeTtl =
      .ok s.passkeyChallengeTtl
  poolSize : setting form .poolSize (bounded readInteger (1 ≤ ·) .belowOne) standard.poolSize =
    .ok s.poolSize
  busyTimeout :
    setting form .busyTimeout (bounded readNumber Binary64.isPositive .notPositive)
      standard.busyTimeout = .ok s.busyTimeout
  echoSql : setting form .echoSql readFlag standard.echoSql = .ok s.echoSql
  logLevel : setting form .logLevel readText standard.logLevel = .ok s.logLevel

variable {form : Fields Value} {s : Settings}

theorem ofFields_eq_ok_iff : ofFields form = .ok s ↔ s.ReadFrom form := by
  unfold ofFields
  constructor
  · intro h
    -- what is taken off first is the last argument
    obtain ⟨_, logLevel, h1, hLogLevel, rfl⟩ := Checked.app_eq_ok_iff.mp h
    obtain ⟨_, echoSql, h2, hEchoSql, rfl⟩ := Checked.app_eq_ok_iff.mp h1
    obtain ⟨_, busyTimeout, h3, hBusyTimeout, rfl⟩ := Checked.app_eq_ok_iff.mp h2
    obtain ⟨_, poolSize, h4, hPoolSize, rfl⟩ := Checked.app_eq_ok_iff.mp h3
    obtain ⟨_, passkeyTtl, h5, hPasskeyTtl, rfl⟩ := Checked.app_eq_ok_iff.mp h4
    obtain ⟨_, oauthTtl, h6, hOauthTtl, rfl⟩ := Checked.app_eq_ok_iff.mp h5
    obtain ⟨_, emailTtl, h7, hEmailTtl, rfl⟩ := Checked.app_eq_ok_iff.mp h6
    obtain ⟨_, sessionTtl, h8, hSessionTtl, rfl⟩ := Checked.app_eq_ok_iff.mp h7
    obtain ⟨_, network, h9, hNetwork, rfl⟩ := Checked.app_eq_ok_iff.mp h8
    obtain ⟨_, pepper, h10, hPepper, rfl⟩ := Checked.app_eq_ok_iff.mp h9
    obtain ⟨_, environment, h11, hEnvironment, rfl⟩ := Checked.app_eq_ok_iff.mp h10
    obtain ⟨_, url, h12, hUrl, rfl⟩ := Checked.app_eq_ok_iff.mp h11
    cases h12
    exact ⟨hUrl, hEnvironment, hPepper, hNetwork, hSessionTtl, hEmailTtl, hOauthTtl, hPasskeyTtl,
      hPoolSize, hBusyTimeout, hEchoSql, hLogLevel⟩
  · intro h
    rw [h.databaseUrl, h.environment, h.walletSecretPepper, h.walletDefaultNetwork, h.sessionTtl,
      h.emailVerifyTtl, h.oauthStateTtl, h.passkeyChallengeTtl, h.poolSize, h.busyTimeout,
      h.echoSql, h.logLevel]
    rfl

theorem ofForm_eq_ok_iff : ofForm form = .ok s ↔ s.ReadFrom form ∧ s.isSafe = true := by
  rw [← ofFields_eq_ok_iff]
  unfold ofForm
  cases ofFields form with
  | error issues => simp
  | ok r =>
    show (if r.isSafe then Except.ok r else _) = _ ↔ _
    rw [Except.ok.injEq]
    constructor
    · intro h
      split at h
      · next safe =>
        cases h
        exact ⟨rfl, safe⟩
      · cases h
    · rintro ⟨rfl, safe⟩
      rw [if_pos safe]

/-! ## Environments -/

/-- What is seen of an environment. -/
def environmentForm (env : Fields String) : Fields Value :=
  (env.filter fun e => Key.all.any (·.envName == e.1)).map fun e => (e.1, .text e.2)

theorem get?_environmentForm (env : Fields String) (name : String) :
    (environmentForm env).get? name =
      if Key.all.any (·.envName == name) then (env.get? name).map .text else none := by
  unfold environmentForm
  rw [Fields.get?_map, Fields.get?_filter fun name => Key.all.any (·.envName == name)]
  split <;> rfl

/-- A setting is given under its name in the environment and under no other. -/
theorem given?_environmentForm (env : Fields String) (key : Key) :
    given? (environmentForm env) key =
      (env.get? key.envName).map fun text => (key.envName, .text text) := by
  have own : Key.all.any (·.envName == key.envName) = true := by cases key <;> decide
  have other : Key.all.any (·.envName == key.name) = false := by cases key <;> decide
  unfold given?
  rw [get?_environmentForm, get?_environmentForm, own, other]
  cases env.get? key.envName <;> rfl

end Settings

end AccountPortal

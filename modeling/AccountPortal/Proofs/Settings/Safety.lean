import AccountPortal.Proofs.Settings.Reading
import AccountPortal.Proofs.WholeNumbers

/-!
# Settings are safe

Each setting has a conversion and a bound of its own. Settings are made of a form just when every
value that counts passes both, and together they are not production with the pepper that everyone
knows; and they are what the values are converted to:

    ofForm form = .ok s ↔ (∀ key, Gives form key (key.value s)) ∧
      ¬ (s.environment = .production ∧ s.walletSecretPepper = developmentPepper)   (ofForm_iff_gives)
    (∃ s, ofForm form = .ok s) ↔ (∀ key, ∃ a, Gives form key a) ∧
      ¬ (Gives form .environment .production ∧
        Gives form .walletSecretPepper developmentPepper)                       (exists_ofForm_iff)

So there are no unsafe ones, from whatever form or environment (`settings_are_safe`).
-/

namespace AccountPortal

/-! ## Bounds -/

/-- More than zero, infinity among them; what is no number is not. -/
def Binary64.Positive : Binary64 → Prop
  | .nan => False
  | .infinite negative => negative = false
  | .finite negative mantissa _ => negative = false ∧ 0 < mantissa

theorem Binary64.isPositive_iff {x : Binary64} : x.isPositive = true ↔ x.Positive := by
  cases x with
  | nan => simp [isPositive, Positive]
  | infinite negative => cases negative <;> simp [isPositive, Positive]
  | finite negative mantissa exponent =>
    cases negative <;> simp [isPositive, Positive, Nat.pos_iff_ne_zero]

theorem bounded_eq_ok_iff {α : Type} {read : Reader α} {ok : α → Bool} {complaint : Complaint}
    {v : Value} {a : α} :
    bounded read ok complaint v = .ok a ↔ read v = .ok a ∧ ok a = true := by
  simp only [bounded]
  cases read v with
  | error c => simp
  | ok b =>
    show (if ok b then Except.ok b else Except.error complaint) = _ ↔ _
    rw [Except.ok.injEq]
    constructor
    · intro h
      split at h
      · next pass =>
        cases h
        exact ⟨rfl, pass⟩
      · cases h
    · rintro ⟨rfl, pass⟩
      rw [if_pos pass]

namespace Settings

/-! ## One setting -/

namespace Key

/-- What a setting is, once it is read. -/
abbrev Kind : Key → Type
  | .databaseUrl | .walletSecretPepper | .logLevel => String
  | .environment => Environment
  | .walletDefaultNetwork => Network
  | .sessionTtl | .emailVerifyTtl | .oauthStateTtl | .passkeyChallengeTtl | .poolSize => Int
  | .busyTimeout => Binary64
  | .echoSql => Bool

def convert : (key : Key) → Reader key.Kind
  | .databaseUrl | .walletSecretPepper | .logLevel => readText
  | .environment => readListed
  | .walletDefaultNetwork => readListed
  | .sessionTtl | .emailVerifyTtl | .oauthStateTtl | .passkeyChallengeTtl | .poolSize => readInteger
  | .busyTimeout => readNumber
  | .echoSql => readFlag

/-- The bound of a setting, where it has one. -/
def Within : (key : Key) → key.Kind → Prop
  | .sessionTtl, lifetime | .emailVerifyTtl, lifetime | .oauthStateTtl, lifetime
  | .passkeyChallengeTtl, lifetime => 0 < lifetime
  | .poolSize, size => 1 ≤ size
  | .busyTimeout, seconds => seconds.Positive
  | _, _ => True

def value : (key : Key) → Settings → key.Kind
  | .databaseUrl, s => s.databaseUrl
  | .environment, s => s.environment
  | .walletSecretPepper, s => s.walletSecretPepper
  | .walletDefaultNetwork, s => s.walletDefaultNetwork
  | .sessionTtl, s => s.sessionTtl
  | .emailVerifyTtl, s => s.emailVerifyTtl
  | .oauthStateTtl, s => s.oauthStateTtl
  | .passkeyChallengeTtl, s => s.passkeyChallengeTtl
  | .poolSize, s => s.poolSize
  | .busyTimeout, s => s.busyTimeout
  | .echoSql, s => s.echoSql
  | .logLevel, s => s.logLevel

/-- Every standard value is within its own bound. -/
theorem within_standard (key : Key) : key.Within (key.value standard) := by
  cases key with
  | sessionTtl | emailVerifyTtl | oauthStateTtl | passkeyChallengeTtl =>
    simp only [Within, value, standard]
    decide
  | poolSize =>
    simp only [Within, value, standard]
    decide
  | busyTimeout =>
    have positive : thirty.isPositive = true := by decide
    exact Binary64.isPositive_iff.mp positive
  | _ => trivial

/-- How a setting is read: what its bound does not pass is refused. -/
def reader : (key : Key) → Reader key.Kind
  | .sessionTtl | .emailVerifyTtl | .oauthStateTtl | .passkeyChallengeTtl => readPositive
  | .poolSize => bounded readInteger (1 ≤ ·) .belowOne
  | .busyTimeout => bounded readNumber Binary64.isPositive .notPositive
  | .databaseUrl | .walletSecretPepper | .logLevel => readText
  | .environment => readListed
  | .walletDefaultNetwork => readListed
  | .echoSql => readFlag

theorem reader_eq_ok_iff (key : Key) {v : Value} {a : key.Kind} :
    key.reader v = .ok a ↔ key.convert v = .ok a ∧ key.Within a := by
  cases key with
  | sessionTtl | emailVerifyTtl | oauthStateTtl | passkeyChallengeTtl =>
    exact bounded_eq_ok_iff.trans (and_congr_right fun _ => decide_eq_true_iff)
  | poolSize => exact bounded_eq_ok_iff.trans (and_congr_right fun _ => decide_eq_true_iff)
  | busyTimeout =>
    exact bounded_eq_ok_iff.trans (and_congr_right fun _ => Binary64.isPositive_iff)
  | _ => exact (and_iff_left trivial).symm

/-- Every setting but the timeout, which is a number itself, takes a whole number for the integer
that it is. -/
theorem reader_whole {key : Key} (differs : key ≠ .busyTimeout) {x : Binary64} {n : Int}
    (h : x.toInt? = some n) (low : -wordBound < n) (high : n < wordBound) :
    key.reader (.number x) = key.reader (.int n) := by
  have integer := readInteger_whole h low high
  cases key with
  | sessionTtl | emailVerifyTtl | oauthStateTtl | passkeyChallengeTtl | poolSize =>
    simp only [reader, readPositive, bounded, integer]
  | echoSql => exact readFlag_whole h (Int.ne_of_gt low)
  | busyTimeout => exact absurd rfl differs
  | _ => rfl

end Key

/-- The value that counts for a setting; the environment's name wins. -/
def effective? (form : Fields Value) (key : Key) : Option Value :=
  (form.get? key.envName).or (form.get? key.name)

/-- What a form makes of a setting: what the value that counts is converted to, if that is within the
bound, or the standard value. -/
def Gives (form : Fields Value) (key : Key) (a : key.Kind) : Prop :=
  match effective? form key with
  | some v => key.convert v = .ok a ∧ key.Within a
  | none => a = key.value standard

section Gives

variable {form form' : Fields Value}

theorem given?_eq (form : Fields Value) (key : Key) :
    (given? form key).map Prod.snd = effective? form key := by
  unfold given? effective?
  cases form.get? key.envName with
  | some v => rfl
  | none => cases form.get? key.name <;> rfl

theorem setting_eq_ok_iff {key : Key} {a : key.Kind} :
    setting form key key.reader (key.value standard) = .ok a ↔ Gives form key a := by
  unfold setting Gives
  rw [← given?_eq]
  cases given? form key with
  | none =>
    show Except.ok _ = _ ↔ a = _
    rw [Except.ok.injEq, eq_comm]
  | some named => exact checkField_eq_ok_iff.trans key.reader_eq_ok_iff

theorem Gives.within {key : Key} {a : key.Kind} (h : Gives form key a) : key.Within a := by
  unfold Gives at h
  split at h
  · exact h.2
  · rw [h]
    exact key.within_standard

/-- A form makes at most one thing of a setting. -/
theorem Gives.unique {key : Key} {a b : key.Kind} (ha : Gives form key a) (hb : Gives form key b) :
    a = b := by
  rw [← setting_eq_ok_iff] at ha hb
  exact Except.ok.inj (ha.symm.trans hb)

/-! ## All settings -/

theorem readFrom_iff {s : Settings} : s.ReadFrom form ↔ ∀ key, Gives form key (key.value s) := by
  constructor
  · intro h key
    rw [← setting_eq_ok_iff]
    cases key with
    | databaseUrl => exact h.databaseUrl
    | environment => exact h.environment
    | walletSecretPepper => exact h.walletSecretPepper
    | walletDefaultNetwork => exact h.walletDefaultNetwork
    | sessionTtl => exact h.sessionTtl
    | emailVerifyTtl => exact h.emailVerifyTtl
    | oauthStateTtl => exact h.oauthStateTtl
    | passkeyChallengeTtl => exact h.passkeyChallengeTtl
    | poolSize => exact h.poolSize
    | busyTimeout => exact h.busyTimeout
    | echoSql => exact h.echoSql
    | logLevel => exact h.logLevel
  · intro h
    exact
      { databaseUrl := setting_eq_ok_iff.mpr (h .databaseUrl)
        environment := setting_eq_ok_iff.mpr (h .environment)
        walletSecretPepper := setting_eq_ok_iff.mpr (h .walletSecretPepper)
        walletDefaultNetwork := setting_eq_ok_iff.mpr (h .walletDefaultNetwork)
        sessionTtl := setting_eq_ok_iff.mpr (h .sessionTtl)
        emailVerifyTtl := setting_eq_ok_iff.mpr (h .emailVerifyTtl)
        oauthStateTtl := setting_eq_ok_iff.mpr (h .oauthStateTtl)
        passkeyChallengeTtl := setting_eq_ok_iff.mpr (h .passkeyChallengeTtl)
        poolSize := setting_eq_ok_iff.mpr (h .poolSize)
        busyTimeout := setting_eq_ok_iff.mpr (h .busyTimeout)
        echoSql := setting_eq_ok_iff.mpr (h .echoSql)
        logLevel := setting_eq_ok_iff.mpr (h .logLevel) }

theorem isSafe_iff {s : Settings} :
    s.isSafe = true ↔
      ¬ (s.environment = .production ∧ s.walletSecretPepper = developmentPepper) := by
  rw [isSafe, Bool.not_eq_true', ← Bool.not_eq_true, Bool.and_eq_true, beq_iff_eq, beq_iff_eq]

theorem ofForm_iff_gives {s : Settings} :
    ofForm form = .ok s ↔ (∀ key, Gives form key (key.value s)) ∧
      ¬ (s.environment = .production ∧ s.walletSecretPepper = developmentPepper) := by
  rw [ofForm_eq_ok_iff, readFrom_iff, isSafe_iff]

/-- The settings of these values. -/
def ofValues (values : ∀ key : Key, key.Kind) : Settings where
  databaseUrl := values .databaseUrl
  environment := values .environment
  walletSecretPepper := values .walletSecretPepper
  walletDefaultNetwork := values .walletDefaultNetwork
  sessionTtl := values .sessionTtl
  emailVerifyTtl := values .emailVerifyTtl
  oauthStateTtl := values .oauthStateTtl
  passkeyChallengeTtl := values .passkeyChallengeTtl
  poolSize := values .poolSize
  busyTimeout := values .busyTimeout
  echoSql := values .echoSql
  logLevel := values .logLevel

theorem value_ofValues (values : ∀ key : Key, key.Kind) (key : Key) :
    key.value (ofValues values) = values key := by
  cases key <;> rfl

/-- Each setting on its own, and then the two that are looked at together. -/
theorem exists_ofForm_iff :
    (∃ s, ofForm form = .ok s) ↔ (∀ key, ∃ a, Gives form key a) ∧
      ¬ (Gives form .environment .production ∧
        Gives form .walletSecretPepper developmentPepper) := by
  constructor
  · rintro ⟨s, made⟩
    obtain ⟨gives, safe⟩ := ofForm_iff_gives.mp made
    refine ⟨fun key => ⟨_, gives key⟩, ?_⟩
    rintro ⟨production, known⟩
    exact safe ⟨(gives .environment).unique production, (gives .walletSecretPepper).unique known⟩
  · rintro ⟨each, safe⟩
    obtain ⟨values, gives⟩ := Classical.skolem.mp each
    refine ⟨ofValues values, ofForm_iff_gives.mpr ⟨?_, ?_⟩⟩
    · intro key
      rw [value_ofValues]
      exact gives key
    · rintro ⟨production, known⟩
      have environment := gives .environment
      have pepper := gives .walletSecretPepper
      rw [show values .environment = .production from production] at environment
      rw [show values .walletSecretPepper = developmentPepper from known] at pepper
      exact safe ⟨environment, pepper⟩

/-! ## Forms and environments -/

/-- All that counts of a form is what is given for each setting, and under which name. -/
theorem ofForm_congr (h : ∀ key, given? form key = given? form' key) :
    ofForm form = ofForm form' := by
  have same : ∀ (key : Key) {α : Type} (read : Reader α) (standard : α),
      setting form key read standard = setting form' key read standard := by
    intro key α read standard
    unfold setting
    rw [h]
  unfold ofForm ofFields
  simp only [same]

end Gives

/-- No setting has the name that another has in the environment. -/
theorem name_ne_envName (key other : Key) : key.name ≠ other.envName := by
  cases key <;> cases other <;> decide

theorem ofEnvironment_congr {env env' : Fields String}
    (h : ∀ key : Key, env'.get? key.envName = env.get? key.envName) :
    ofEnvironment env' = ofEnvironment env := by
  show ofForm (environmentForm env') = ofForm (environmentForm env)
  refine ofForm_congr fun key => ?_
  rw [given?_environmentForm, given?_environmentForm, h]

/-- A form that holds what the environment has for the settings, and nothing else. -/
structure Restricts (env : Fields String) (form : Fields Value) : Prop where
  own : ∀ key : Key, form.get? key.envName = (env.get? key.envName).map .text
  other : ∀ name, (∀ key : Key, name ≠ key.envName) → form.get? name = none

theorem restricts_environmentForm (env : Fields String) : Restricts env (environmentForm env) := by
  constructor
  · intro key
    have own : Key.all.any (·.envName == key.envName) = true := by cases key <;> decide
    rw [get?_environmentForm, own, if_pos rfl]
  · intro name other
    have absent : Key.all.any (·.envName == name) = false := by
      rw [List.any_eq_false]
      exact fun key _ same => other key (beq_iff_eq.mp same).symm
    rw [get?_environmentForm, absent]
    rfl

theorem ofEnvironment_eq_ofForm {env : Fields String} {form : Fields Value}
    (h : Restricts env form) : ofEnvironment env = ofForm form := by
  show ofForm (environmentForm env) = ofForm form
  refine ofForm_congr fun key => ?_
  rw [given?_environmentForm, given?, h.own, h.other key.name (name_ne_envName key)]
  cases env.get? key.envName <;> rfl

/-- Settings that a form or an environment makes. -/
def Obtainable (s : Settings) : Prop :=
  (∃ form, ofForm form = .ok s) ∨ ∃ env, ofEnvironment env = .ok s

theorem Obtainable.exists_form {s : Settings} (h : Obtainable s) : ∃ form, ofForm form = .ok s := by
  rcases h with made | ⟨env, made⟩
  · exact made
  · exact ⟨environmentForm env, made⟩

/-- Settings are made of a form, under either name of each, just when every value that counts is
converted and within its bound, and they are not production with the known pepper; they are then the
values themselves. So none are obtained that have secure cookies and the known pepper, or a setting
out of its bound. An environment makes of itself what a form makes that holds the twelve settings of
it, and what else it holds, a setting by its other name included, has no say. -/
theorem settings_are_safe :
    (∀ form s, ofForm form = .ok s ↔ (∀ key, Gives form key (key.value s)) ∧
      ¬ (s.environment = .production ∧ s.walletSecretPepper = developmentPepper)) ∧
    (∀ form, (∃ s, ofForm form = .ok s) ↔ (∀ key, ∃ a, Gives form key a) ∧
      ¬ (Gives form .environment .production ∧
        Gives form .walletSecretPepper developmentPepper)) ∧
    (∀ s, Obtainable s →
      ¬ (s.secureCookies = true ∧ s.walletSecretPepper = developmentPepper) ∧
      0 < s.sessionTtl ∧ 0 < s.emailVerifyTtl ∧ 0 < s.oauthStateTtl ∧ 0 < s.passkeyChallengeTtl ∧
      1 ≤ s.poolSize ∧ s.busyTimeout.Positive) ∧
    (∀ env, (∃ form, Restricts env form) ∧
      ∀ form, Restricts env form → ofEnvironment env = ofForm form) ∧
    (∀ env env' : Fields String, (∀ key : Key, env'.get? key.envName = env.get? key.envName) →
      ofEnvironment env' = ofEnvironment env) ∧
    ∀ key other : Key, key.name ≠ other.envName := by
  refine ⟨fun _ _ => ofForm_iff_gives, fun _ => exists_ofForm_iff, ?_,
    fun env => ⟨⟨_, restricts_environmentForm env⟩, fun _ => ofEnvironment_eq_ofForm⟩,
    fun _ _ => ofEnvironment_congr, name_ne_envName⟩
  intro s obtained
  obtain ⟨form, made⟩ := obtained.exists_form
  obtain ⟨gives, safe⟩ := ofForm_iff_gives.mp made
  refine ⟨?_, (gives .sessionTtl).within, (gives .emailVerifyTtl).within,
    (gives .oauthStateTtl).within, (gives .passkeyChallengeTtl).within, (gives .poolSize).within,
    (gives .busyTimeout).within⟩
  rintro ⟨secure, known⟩
  exact safe ⟨beq_iff_eq.mp secure, known⟩

/-- Production with a pepper of its own, which stands under both names beside the known one, a whole
lifetime and a timeout of half a second; and an environment with a setting under its other name. -/
theorem own_pepper_wins_in_production :
    let form : Fields Value := [("wallet_secret_pepper", .text "edgecoder-dev-pepper"),
      ("WALLET_SECRET_PEPPER", .text "own"), ("environment", .text "production"),
      ("PORTAL_SESSION_TTL_MS", .number (.ofDigits false 10000 (-1))),
      ("busy_timeout_seconds", .number (.ofDigits false 5 (-1)))]
    let s : Settings := { standard with
      environment := .production
      walletSecretPepper := "own"
      sessionTtl := 1000
      busyTimeout := .ofDigits false 5 (-1) }
    let env : Fields String := [("PORTAL_ENV", "test"), ("pool_size", "0")]
    let seen : Fields Value := [("PORTAL_ENV", .text "test")]
    ofForm form = .ok s ∧ Obtainable s ∧
      ¬ (s.secureCookies = true ∧ s.walletSecretPepper = developmentPepper) ∧
      Restricts env seen ∧ ofEnvironment env = ofForm seen ∧
      ofEnvironment [("PORTAL_ENV", "test")] = ofEnvironment env := by
  intro form s env seen
  have made : ofForm form = .ok s := by rfl
  have obtained : Obtainable s := Or.inl ⟨form, made⟩
  have restricts : Restricts env seen := by
    constructor
    · intro key
      cases key <;> rfl
    · intro name other
      have first : ¬ "PORTAL_ENV" = name := fun h => other .environment h.symm
      rw [Fields.get?_cons, if_neg first, Fields.get?_nil]
  obtain ⟨-, -, safe, same, congr, -⟩ := settings_are_safe
  refine ⟨made, obtained, (safe s obtained).1, restricts, (same env).2 seen restricts,
    congr env _ fun key => ?_⟩
  cases key <;> rfl

end Settings

end AccountPortal

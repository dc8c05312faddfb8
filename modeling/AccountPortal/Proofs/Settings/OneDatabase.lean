import AccountPortal.Portal.Run
import AccountPortal.Proofs.Settings.Reading

/-!
# The database that is migrated and the one that is served

The migration reads the URL of the database trimmed, the settings keep it as the environment gives
it. So they open one database just when the text that is given has no blank at either end
(`one_database_iff_unpadded`).
-/

namespace AccountPortal

theorem trim_eq_self_iff (s : String) :
    trim s = s ↔ (∀ c, s.toList.head? = some c → isBlank c = false) ∧
      ∀ c, s.toList.getLast? = some c → isBlank c = false := by
  constructor
  · intro h
    have chars : trimChars isBlank s.toList = s.toList := by
      have := congrArg String.toList h
      rwa [trim, String.toList_ofList] at this
    rw [← chars]
    exact ⟨fun c => head?_trimChars, fun c => getLast?_trimChars⟩
  · rintro ⟨first, last⟩
    rw [trim, trimChars_eq_self first last, String.ofList_toList]

/-- A database is named by a text that is not blank, and by what trimming leaves of it. -/
theorem databaseUrl?_eq_some_iff {env : Fields String} {u : String} :
    databaseUrl? env = some u ↔
      ∃ given, env.get? Settings.Key.databaseUrl.envName = some given ∧ trim given = u ∧
        u ≠ "" := by
  unfold databaseUrl?
  cases env.get? Settings.Key.databaseUrl.envName with
  | none =>
    have blank : trim "" = "" := by decide
    simp [blank]
  | some given =>
    simp only [Option.getD_some, Option.some.injEq, exists_eq_left']
    split
    · next blank => simp [blank]
    · next named =>
      simp only [Option.some.injEq]
      constructor
      · rintro rfl
        exact ⟨rfl, named⟩
      · exact And.left

namespace Settings

/-- The settings keep the URL as it is given. -/
theorem databaseUrl_of_ofEnvironment {env : Fields String} {s : Settings}
    (h : ofEnvironment env = .ok s) :
    s.databaseUrl = (env.get? Key.databaseUrl.envName).getD standard.databaseUrl := by
  have read : s.ReadFrom (environmentForm env) := (ofForm_eq_ok_iff.mp h).1
  have url := read.databaseUrl
  rw [setting, given?_environmentForm] at url
  cases hgiven : env.get? Key.databaseUrl.envName with
  | none =>
    rw [hgiven] at url
    exact (Except.ok.inj url).symm
  | some given =>
    rw [hgiven] at url
    cases readText_eq_ok_iff.mp (checkField_eq_ok_iff.mp url)
    rfl

end Settings

/-- A portal is opened when a database is named, with the settings of the environment, if the engine
can use their URL. -/
theorem Portal.ofEnvironment_eq_some_iff {env : Fields String} {s : Settings} :
    Portal.ofEnvironment env = .ok (some s) ↔
      (∃ u, databaseUrl? env = some u) ∧ Settings.ofEnvironment env = .ok s ∧
        DatabaseUrl.usable s.databaseUrl = .ok () := by
  unfold Portal.ofEnvironment openSettings usable
  cases databaseUrl? env with
  | none => simp
  | some u =>
    cases Settings.ofEnvironment env with
    | error f => simp [Except.map]
    | ok read =>
      simp only [Option.some.injEq, exists_eq', true_and, Except.ok.injEq]
      constructor
      · intro h
        split at h
        · next accepted =>
          cases h
          exact ⟨rfl, accepted⟩
        · cases h
      · rintro ⟨rfl, accepted⟩
        rw [accepted]
        rfl

/-- The migration and the portal open one database just when the text of the URL, which the portal's
settings keep and the migration trims, has no blank at either end. -/
theorem one_database_iff_unpadded (env : Fields String) (u : String) (s : Settings)
    (migrated : databaseUrl? env = some u) (served : Settings.ofEnvironment env = .ok s) :
    (s.databaseUrl = u ↔
      (∀ c, s.databaseUrl.toList.head? = some c → isBlank c = false) ∧
        ∀ c, s.databaseUrl.toList.getLast? = some c → isBlank c = false) ∧
    u = trim s.databaseUrl ∧
    env.get? Settings.Key.databaseUrl.envName = some s.databaseUrl ∧
    ∀ r, Portal.ofEnvironment env = .ok (some r) → r = s := by
  obtain ⟨given, found, trimmed, -⟩ := databaseUrl?_eq_some_iff.mp migrated
  have kept := Settings.databaseUrl_of_ofEnvironment served
  rw [found, Option.getD_some] at kept
  subst kept
  refine ⟨?_, trimmed.symm, found, ?_⟩
  · rw [← trim_eq_self_iff, trimmed, eq_comm]
  · intro r opened
    have read := (Portal.ofEnvironment_eq_some_iff.mp opened).2.1
    rw [read] at served
    exact Except.ok.inj served

/-- A URL with nothing around it is served as it is migrated. -/
theorem one_database_of_plain_url :
    let env : Fields String := [("PORTAL_DATABASE_URL", "sqlite+aiosqlite:///x.db")]
    let s : Settings := { Settings.standard with databaseUrl := "sqlite+aiosqlite:///x.db" }
    databaseUrl? env = some "sqlite+aiosqlite:///x.db" ∧ Settings.ofEnvironment env = .ok s ∧
      s.databaseUrl = "sqlite+aiosqlite:///x.db" := by
  intro env s
  have migrated : databaseUrl? env = some "sqlite+aiosqlite:///x.db" := by decide
  have served : Settings.ofEnvironment env = .ok s := by rfl
  have first : ∀ c, "sqlite+aiosqlite:///x.db".toList.head? = some c → isBlank c = false := by
    rintro c ⟨⟩
    decide
  have last : ∀ c, "sqlite+aiosqlite:///x.db".toList.getLast? = some c → isBlank c = false := by
    rintro c ⟨⟩
    decide
  exact ⟨migrated, served,
    (one_database_iff_unpadded env _ s migrated served).1.mpr ⟨first, last⟩⟩

set_option maxRecDepth 4000 in
/-- A blank after the URL: the portal that opens is not on the database that is migrated. -/
theorem two_databases_of_padded_url :
    let env : Fields String := [("PORTAL_DATABASE_URL", "sqlite+aiosqlite:///x.db ")]
    let s : Settings := { Settings.standard with databaseUrl := "sqlite+aiosqlite:///x.db " }
    databaseUrl? env = some "sqlite+aiosqlite:///x.db" ∧ Settings.ofEnvironment env = .ok s ∧
      Portal.ofEnvironment env = .ok (some s) ∧ s.databaseUrl ≠ "sqlite+aiosqlite:///x.db" := by
  intro env s
  have migrated : databaseUrl? env = some "sqlite+aiosqlite:///x.db" := by decide
  have served : Settings.ofEnvironment env = .ok s := by rfl
  have parsed : DatabaseUrl.ofText "sqlite+aiosqlite:///x.db " =
      .ok ⟨"sqlite+aiosqlite".toList, [], [], [], 0, some "x.db ".toList, []⟩ := by rfl
  have driver : Driver.ofScheme "sqlite+aiosqlite".toList = .ok .concurrent := by rfl
  have accepted : DatabaseUrl.usable "sqlite+aiosqlite:///x.db " = .ok () := by
    unfold DatabaseUrl.usable
    rw [parsed]
    simp only [bind, Except.bind, driver]
    rfl
  have opened : Portal.ofEnvironment env = .ok (some s) :=
    Portal.ofEnvironment_eq_some_iff.mpr ⟨⟨_, migrated⟩, served, accepted⟩
  exact ⟨migrated, served, opened, by decide⟩

end AccountPortal

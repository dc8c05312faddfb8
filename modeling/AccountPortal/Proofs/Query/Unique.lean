import AccountPortal.Proofs.Failure.Atomic
import AccountPortal.Proofs.Query.Stores
import AccountPortal.Proofs.Repetition.Races

/-!
# One row for a key

No event gives two rows of a table one key, so after every run the rows of each table differ in its
primary key and in every column that is unique beside it. Hence no statement of a call gives back
another number of rows than the call expects, none but the inserts of the five creates can meet a
key in use, and a create that is carried out meets one exactly where some row has it, be it live,
expired or consumed:

    (∃ entity detail, (q.attempt conn c).2 = .error (.taken entity detail)) ↔
      c.Valid q.context ∧ c.MeetsKey t                               (one_row_for_a_key)
-/

namespace AccountPortal

/-! ## Keys in use -/

namespace Plan

variable {σ τ α β : Type} {meets : σ → Prop}

/-- A request that is carried out succeeds unless it meets a key in use, and what is refused is
refused for another reason. -/
def Collides (meets : σ → Prop) : Except Fault (Plan σ) → Prop
  | .error f => ∀ entity detail, f ≠ .taken entity detail
  | .ok (.answered _) => ∀ s, ¬ meets s
  | .ok (.transaction _ body) => ∀ s,
    (meets s → ∃ entity detail, body s = .error (.taken entity detail)) ∧
      (¬ meets s → ∃ r, body s = .ok r)

theorem collides_transaction {integers : List Int} {body : σ → Except Fault (σ × Answer)}
    (met : ∀ s, meets s → ∃ entity detail, body s = .error (.taken entity detail))
    (free : ∀ s, ¬ meets s → ∃ r, body s = .ok r) :
    Collides meets (.ok (.transaction integers body)) :=
  fun s => ⟨met s, free s⟩

theorem collides_update {integers : List Int} {write : σ → σ × Answer} (h : ∀ s, ¬ meets s) :
    Collides meets (.ok (.update integers write)) :=
  collides_transaction (fun s met => absurd met (h s)) fun s _ => ⟨write s, rfl⟩

theorem collides_insert {P : α → Prop} {taken : α → Bool} {integers : List Int} {new : α}
    {entity detail : String} {b : Answer} (htaken : ∀ r, taken r = true ↔ P r) :
    Collides (fun rows => ∃ r ∈ rows, P r) (.ok (.transaction integers fun rows =>
      if rows.any taken then .error (.taken entity detail) else .ok (rows ++ [new], b))) := by
  have any_iff : ∀ rows : List α, rows.any taken = true ↔ ∃ r ∈ rows, P r := by
    simp only [List.any_eq_true, htaken, implies_true]
  apply collides_transaction
  · intro rows met
    exact ⟨entity, detail, if_pos ((any_iff rows).mpr met)⟩
  · intro rows free
    exact ⟨_, if_neg fun hany => free ((any_iff rows).mp hany)⟩

theorem collides_map {x : Except Fault β} {plan : β → Plan σ}
    (hx : ∀ f, x = .error f → ∀ entity detail, f ≠ .taken entity detail)
    (h : ∀ b, Collides meets (.ok (plan b))) : Collides meets (x.map plan) := by
  cases x with
  | error f => exact hx f rfl
  | ok b => exact h b

theorem collides_on {get : τ → σ} {set : σ → τ → τ} {planned : Except Fault (Plan σ)}
    (h : Collides meets planned) :
    Collides (fun t => meets (get t)) (planned.map (Plan.on get set)) := by
  cases planned with
  | error f => exact h
  | ok plan =>
    cases plan with
    | answered a => exact fun t => h (get t)
    | transaction integers body =>
      apply collides_transaction
      · intro t met
        obtain ⟨entity, detail, hbody⟩ := (h (get t)).1 met
        exact ⟨entity, detail, congrArg (Except.map _) hbody⟩
      · intro t free
        obtain ⟨r, hbody⟩ := (h (get t)).2 free
        exact ⟨_, congrArg (Except.map _) hbody⟩

end Plan

theorem not_taken_of_coerce {α : Type} [Choice α] {label : String} {v : Value} (f : Fault)
    (h : (Choice.coerce label v : Except Fault α) = .error f) (entity detail : String) :
    f ≠ .taken entity detail := by
  unfold Choice.coerce at h
  split at h <;> cases h
  exact Fault.noConfusion

theorem not_taken_of_coerceTransports {items : List Value} {f : Fault}
    (h : coerceTransports items = .error f) (entity detail : String) :
    f ≠ .taken entity detail := by
  induction items with
  | nil => cases h
  | cons v rest ih =>
    unfold coerceTransports at h
    split at h
    · cases hrest : coerceTransports rest with
      | ok ts =>
        rw [hrest] at h
        cases h
      | error g =>
        rw [hrest] at h
        cases h
        exact ih hrest
    · next g hv =>
      cases h
      exact not_taken_of_coerce f hv entity detail

theorem not_taken_of_canonicalTransports {v : Value} (f : Fault)
    (h : canonicalTransports v = .error f) (entity detail : String) : f ≠ .taken entity detail := by
  have of_items : ∀ items, canonicalItems items = .error f → f ≠ .taken entity detail := by
    intro items hitems
    unfold canonicalItems at hitems
    cases coerced : coerceTransports items with
    | ok ts =>
      rw [coerced] at hitems
      cases hitems
    | error g =>
      rw [coerced] at hitems
      cases hitems
      exact not_taken_of_coerceTransports coerced entity detail
  unfold canonicalTransports at h
  split at h
  · cases h
  · exact of_items _ h
  · exact of_items _ h
  · cases h
    exact Fault.noConfusion

/-! ## Stores -/

open Plan

variable {ctx : Context}

/-- Some user has the id or the normalised address of the user to be created. -/
def Accounts.MeetsKey : Accounts.Request → List User → Prop
  | .create id email _ _ _, users => ∃ u ∈ users, u.userId = id ∨ u.email = normalizeEmail email
  | _, _ => False

def Sessions.MeetsKey : Sessions.Request → List Session → Prop
  | .create id _ hash _, rows => ∃ r ∈ rows, r.sessionId = id ∨ r.tokenHash = hash
  | _, _ => False

def EmailTokens.MeetsKey : EmailTokens.Request → List EmailToken → Prop
  | .create id _ hash _, rows => ∃ r ∈ rows, r.tokenId = id ∨ r.tokenHash = hash
  | _, _ => False

def OAuthStates.MeetsKey : OAuthStates.Request → List OAuthState → Prop
  | .create id _ _ _, rows => ∃ r ∈ rows, r.stateId = id
  | _, _ => False

def PasskeyChallenges.MeetsKey : PasskeyChallenges.Request → List PasskeyChallenge → Prop
  | .create id _ _ _ _ _, rows => ∃ r ∈ rows, r.challengeId = id
  | _, _ => False

/-- A call that creates a row under a key that some row has. -/
def Call.MeetsKey : Call → Tables → Prop
  | .accounts r, t => Accounts.MeetsKey r t.users
  | .sessions r, t => Sessions.MeetsKey r t.sessions
  | .emailTokens r, t => EmailTokens.MeetsKey r t.emailTokens
  | .oauthStates r, t => OAuthStates.MeetsKey r t.oauthStates
  | .passkeyChallenges r, t => PasskeyChallenges.MeetsKey r t.passkeyChallenges
  | _, _ => False

theorem Accounts.collides (r : Accounts.Request) :
    Collides (fun s => Accounts.MeetsKey r s.1) (Accounts.plan ctx r) := by
  have onUsers : ∀ {meets : List User → Prop} {plan : Plan (List User)},
      Collides meets (.ok plan) → Collides (fun s => meets s.1) (.ok (Accounts.onUsers plan)) :=
    fun h => collides_on h
  cases r with
  | create id email hash name verified =>
    exact onUsers (collides_insert fun u => by simp [Accounts.fresh])
  | verifyEmail id => exact collides_update fun _ h => h
  | _ => exact onUsers (collides_update fun _ h => h)

theorem Sessions.collides (r : Sessions.Request) :
    Collides (Sessions.MeetsKey r) (Sessions.plan ctx r) := by
  cases r with
  | create id user hash given => exact collides_insert fun r => by simp
  | _ => exact collides_update fun _ h => h

theorem EmailTokens.collides (r : EmailTokens.Request) :
    Collides (EmailTokens.MeetsKey r) (EmailTokens.plan ctx r) := by
  cases r with
  | create id user hash given => exact collides_insert fun r => by simp
  | _ => exact collides_update fun _ h => h

theorem OAuthStates.collides (r : OAuthStates.Request) :
    Collides (OAuthStates.MeetsKey r) (OAuthStates.plan ctx r) := by
  cases r with
  | create id provider uri given =>
    exact collides_map not_taken_of_coerce fun p => collides_insert fun r => by simp
  | _ => exact collides_update fun _ h => h

theorem PasskeyChallenges.collides (r : PasskeyChallenges.Request) :
    Collides (PasskeyChallenges.MeetsKey r) (PasskeyChallenges.plan ctx r) := by
  cases r with
  | create id challenge flow given user email =>
    exact collides_map not_taken_of_coerce fun p => collides_insert fun r => by simp
  | _ => exact collides_update fun _ h => h

/-- A link is there already or new, and no key is in the way. -/
theorem IdentityLinks.collides (r : IdentityLinks.Request) :
    Collides (fun _ => False) (IdentityLinks.plan ctx r) := by
  cases r with
  | link provider subject user email =>
    exact collides_map not_taken_of_coerce fun p => collides_update fun _ h => h
  | find provider subject =>
    simp only [IdentityLinks.plan]
    split
    · exact collides_update fun _ h => h
    · exact fun _ h => h

theorem Wallets.collides (r : Wallets.Request) :
    Collides (fun _ => False) (Wallets.plan ctx r) := by
  cases r <;> exact collides_update fun _ h => h

theorem PasskeyCredentials.collides (r : PasskeyCredentials.Request) :
    Collides (fun _ => False) (PasskeyCredentials.plan ctx r) := by
  cases r with
  | register r transports =>
    exact collides_map not_taken_of_canonicalTransports fun ts => collides_update fun _ h => h
  | _ => exact collides_update fun _ h => h

theorem Enrollments.collides (r : Enrollments.Request) :
    Collides (fun _ => False) (Enrollments.plan ctx r) := by
  cases r with
  | enroll id kind owner email hash verified =>
    exact collides_map not_taken_of_coerce fun k => collides_update fun _ h => h
  | touch id form =>
    simp only [Enrollments.plan]
    split
    · exact collides_update fun _ h => h
    · exact fun _ _ => Fault.noConfusion
  | _ => exact collides_update fun _ h => h

/-! ## Calls -/

namespace Call

variable {c : Call} {t : Tables}

theorem collides (ctx : Context) (c : Call) : Collides c.MeetsKey (c.plan ctx) := by
  cases c with
  | accounts r => exact collides_on (Accounts.collides r)
  | sessions r => exact collides_on (Sessions.collides r)
  | emailTokens r => exact collides_on (EmailTokens.collides r)
  | oauthStates r => exact collides_on (OAuthStates.collides r)
  | passkeyChallenges r => exact collides_on (PasskeyChallenges.collides r)
  | identityLinks r => exact collides_on (IdentityLinks.collides r)
  | wallets r => exact collides_on (Wallets.collides r)
  | passkeyCredentials r => exact collides_on (PasskeyCredentials.collides r)
  | enrollments r => exact collides_on (Enrollments.collides r)
  | purgeExpired => exact collides_update fun _ h => h

/-- A call that is carried out comes out by the keys that are in use alone. -/
theorem effect_of_valid (valid : c.Valid ctx) :
    (c.MeetsKey t → ∃ entity detail, c.effect ctx t = .error (.taken entity detail)) ∧
      (¬ c.MeetsKey t → ∃ r, c.effect ctx t = .ok r) := by
  obtain ⟨⟨plan, hplan⟩, fits⟩ := valid
  have collides := c.collides ctx
  unfold integers at fits
  unfold effect
  rw [hplan] at collides fits ⊢
  cases plan with
  | answered a => exact ⟨fun met => absurd met (collides t), fun _ => ⟨_, rfl⟩⟩
  | transaction integers body =>
    rw [effectOf_ok, Plan.effect, if_pos fits]
    exact collides t

theorem valid_of_taken {entity detail : String}
    (h : c.effect ctx t = .error (.taken entity detail)) : c.Valid ctx := by
  have collides := c.collides ctx
  unfold Valid integers
  unfold effect at h
  cases hplan : c.plan ctx with
  | error f =>
    rw [hplan] at h collides
    cases h
    exact absurd rfl (collides entity detail)
  | ok plan =>
    refine ⟨⟨plan, rfl⟩, ?_⟩
    rw [hplan] at h
    cases plan with
    | answered a => rfl
    | transaction integers body =>
      rw [effectOf_ok, Plan.effect] at h
      by_cases fits : integers.all fitsWord = true
      · exact fits
      · rw [if_neg fits] at h
        cases h

theorem taken_iff :
    (∃ entity detail, c.effect ctx t = .error (.taken entity detail)) ↔
      c.Valid ctx ∧ c.MeetsKey t := by
  constructor
  · rintro ⟨entity, detail, h⟩
    have valid := valid_of_taken h
    refine ⟨valid, ?_⟩
    by_contra free
    obtain ⟨r, hr⟩ := (effect_of_valid valid).2 free
    rw [h] at hr
    cases hr
  · rintro ⟨valid, met⟩
    exact (effect_of_valid valid).1 met

end Call

theorem Portal.attempt_eq_error_iff {p : Portal} {t : Tables} (h : p.tables = some t)
    (conn : Connection) (c : Call) (f : Fault) :
    (p.attempt conn c).2 = .error f ↔ c.effect p.context t = .error f := by
  cases he : c.effect p.context t with
  | ok r =>
    obtain ⟨u, a⟩ := r
    simp [Portal.attempt_eq_of_effect_ok h conn he]
  | error g => simp [Portal.attempt_eq_of_effect_error h conn he]

/-! ## After every run -/

/-- After every run that leaves the schema the rows of each table differ in their keys. Every call
then, carried out statement by statement on any connection, comes to what is attempted: it is
answered or fails by a fault of the portal, and never by a key that is in use unforeseen or by the
number of rows that come back. It meets a key in use just where a create does that is carried out.
-/
theorem one_row_for_a_key (settings : Settings) (clock : Int) (steps : List Portal.Step)
    (t : Tables) (there : ((Portal.fresh settings clock).run steps).1.tables = some t) :
    let q := ((Portal.fresh settings clock).run steps).1
    (∀ n : TableName, ∃ spec ∈ Layout.tables.map Layout.Declared.table,
      spec.name = Choice.text n ∧ spec.KeysDiffer (t.contents n)) ∧
    (∀ (conn : Connection) (c : Call) (prepared : Nat → Bool), prepared 0 = conn.knows c →
      let w := c.work q.context prepared (some t)
      (∃ u a, w = (some u, .ok a) ∧ q.attempt conn c = (some u, .ok a)) ∨
      ∃ f, w = (some t, .error (.fault f)) ∧ q.attempt conn c = (some t, .error f)) ∧
    (∀ conn (c : Call),
      ((∃ entity detail, (q.attempt conn c).2 = .error (.taken entity detail)) ↔
        c.Valid q.context ∧ c.MeetsKey t) ∧
      (c.Valid q.context → ¬ c.MeetsKey t → ∃ a, (q.attempt conn c).2 = .ok a)) := by
  intro q
  have course := (Portal.fresh settings clock).run_course steps
  have differ : t.KeysDiffer := keysDiffer_of_course course t there
  refine ⟨differ.contents, ?_, ?_⟩
  · intro conn c prepared known w
    have comes : w = Plan.outcome (prepared 0) (c.plan q.context) (some t) :=
      (c.realizes q.context).comes prepared t differ fun u a he =>
        (c.keeps q.context t u a (stored_of_course course t there) he).2
    rw [comes]
    cases he : c.effect q.context t with
    | ok r =>
      obtain ⟨u, a⟩ := r
      exact Or.inl ⟨u, a, Plan.outcome_of_ok he, Portal.attempt_eq_of_effect_ok there conn he⟩
    | error f =>
      exact Or.inr ⟨f, Plan.outcome_of_error he, Portal.attempt_eq_of_effect_error there conn he⟩
  · intro conn c
    constructor
    · simp only [Portal.attempt_eq_error_iff (p := q) there]
      exact Call.taken_iff
    · intro valid free
      obtain ⟨⟨u, a⟩, he⟩ := (Call.effect_of_valid valid).2 free
      exact ⟨a, congrArg Prod.snd (Portal.attempt_eq_of_effect_ok there conn he)⟩

/-- A session that has expired is still there: its token hash cannot be used again, and another
can. -/
theorem token_hash_of_expired_session_in_use :
    let create (id hash : String) : Call := .sessions (.create id "u" hash (some 5))
    let t : Tables := { Tables.empty with sessions := [⟨"s", "u", "h", 5, 0⟩] }
    let q := ((Portal.fresh .standard 0).run [.call (create "s" "h"), .advance 10]).1
    q.tables = some t ∧
      (∃ spec ∈ Layout.tables.map Layout.Declared.table, spec.name = "portal_sessions" ∧
        spec.KeysDiffer (t.contents .sessions)) ∧
      (∃ entity detail,
        (q.attempt .fresh (create "x" "h")).2 = .error (.taken entity detail)) ∧
      ∃ a, (q.attempt .fresh (create "x" "k")).2 = .ok a := by
  intro create t q
  have there : q.tables = some t := rfl
  obtain ⟨differ, -, outcome⟩ :=
    one_row_for_a_key .standard 0 [.call (create "s" "h"), .advance 10] t there
  have valid : ∀ id hash, (create id hash).Valid q.context := fun _ _ => ⟨⟨_, rfl⟩, rfl⟩
  refine ⟨there, differ .sessions, (outcome .fresh (create "x" "h")).1.mpr ⟨valid _ _, ?_⟩,
    (outcome .fresh (create "x" "k")).2 (valid _ _) ?_⟩
  · exact ⟨_, List.mem_singleton.mpr rfl, Or.inr rfl⟩
  · rintro ⟨r, hr, hkey⟩
    rw [List.mem_singleton.mp hr] at hkey
    revert hkey
    decide

end AccountPortal

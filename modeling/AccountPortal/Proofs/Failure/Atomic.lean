import AccountPortal.Proofs.History
import AccountPortal.Proofs.Query.Stores

/-!
# Failed calls change nothing

Of credentials only such are stored as can be read back (`Tables.Stored`), and every call keeps
this, so the records of an answer are always read once they are committed; and no two rows of a
table ever share a key. Then the statements of a call come to what the call is planned to do, all of
it or nothing, and a call that fails leaves every row of every table as it was; so does a call that
only reads, whether it fails or not:

    after every run, c.work does what the attempt does, and
      (c.work ..).2 = .error f → (c.work ..).1 = q.tables                (failure_changes_nothing)
-/

namespace AccountPortal

open Work

/-! ## What is stored and handed back -/

/-- Every stored credential can be read back. -/
def Tables.Stored (t : Tables) : Prop := ∀ c ∈ t.passkeyCredentials, c.Stored

namespace Answer

theorem stored_map {α : Type} {f : α → Record} (hf : ∀ a, (f a).Stored) (o : Option α) :
    (Answer.record (o.map f)).Stored := by
  cases o with
  | none => trivial
  | some a => exact hf a

theorem stored_maps {α : Type} {f : α → Record} {l : List α} (hf : ∀ a ∈ l, (f a).Stored) :
    (Answer.records (l.map f)).Stored := by
  intro r hr
  obtain ⟨a, ha, rfl⟩ := List.mem_map.mp hr
  exact hf a ha

end Answer

namespace Plan

variable {σ τ : Type} {I : σ → Prop}

/-- Whoever finds the invariant keeps it, and hands back what can be read. -/
def Keeps (I : σ → Prop) (planned : Except Fault (Plan σ)) : Prop :=
  ∀ s s' a, I s → effectOf planned s = .ok (s', a) → I s' ∧ a.Stored

theorem keeps_error (f : Fault) : Keeps I (.error f) := by
  intro s s' a _ h
  cases h

theorem keeps_answered {a : Answer} (h : a.Stored) : Keeps I (.ok (.answered a)) := by
  intro s s' b hs heq
  cases heq
  exact ⟨hs, h⟩

theorem keeps_transaction {integers : List Int} {body : σ → Except Fault (σ × Answer)}
    (h : ∀ s s' a, I s → body s = .ok (s', a) → I s' ∧ a.Stored) :
    Keeps I (.ok (.transaction integers body)) := by
  intro s s' a hs heq
  exact h s s' a hs (effect_transaction_eq_ok_iff.mp heq).2

theorem keeps_update {integers : List Int} {write : σ → σ × Answer}
    (h : ∀ s, I s → I (write s).1 ∧ (write s).2.Stored) :
    Keeps I (.ok (.update integers write)) := by
  intro s s' a hs heq
  obtain ⟨-, rfl, rfl⟩ := effect_update_eq_ok_iff.mp heq
  exact h s hs

theorem keeps_query {read : σ → Answer} (h : ∀ s, I s → (read s).Stored) :
    Keeps I (.ok (.query read)) :=
  keeps_update fun s hs => ⟨hs, h s hs⟩

theorem keeps_insert {α : Type} {integers : List Int} {taken : α → Bool} {new : α} {f : Fault}
    {a : Answer} (h : a.Stored) :
    Keeps (fun _ => True) (.ok (.transaction integers fun rows : List α =>
      if rows.any taken then .error f else .ok (rows ++ [new], a))) := by
  apply keeps_transaction
  intro rows rows' b _ heq
  obtain ⟨-, -, rfl⟩ := Rows.eq_of_insert_ok heq
  exact ⟨trivial, h⟩

theorem keeps_map {α : Type} (x : Except Fault α) {plan : α → Plan σ}
    (h : ∀ a, Keeps I (.ok (plan a))) : Keeps I (x.map plan) := by
  cases x with
  | error f => exact keeps_error f
  | ok a => exact h a

theorem keeps_on {get : τ → σ} {set : σ → τ → τ} {J : τ → Prop} {planned : Except Fault (Plan σ)}
    (hset : ∀ t, set (get t) t = t) (h : Keeps I planned) (into : ∀ t, J t → I (get t))
    (back : ∀ s t, J t → I s → J (set s t)) : Keeps J (planned.map (on get set)) := by
  intro t t' a ht heq
  obtain ⟨s, hs, rfl⟩ := exists_of_effectOf_on heq hset
  obtain ⟨kept, stored⟩ := h _ _ _ (into t ht) hs
  exact ⟨back s t ht kept, stored⟩

end Plan

/-! ## Requests -/

section requests

open Plan Answer

variable (ctx : Context)

theorem Accounts.keeps_onUsers {plan : Plan (List User)} (h : Keeps (fun _ => True) (.ok plan)) :
    Keeps (fun _ => True) (.ok (onUsers plan)) := by
  show Keeps _ ((Except.ok plan).map (Plan.on Prod.fst fun users s => (users, s.2)))
  exact keeps_on (fun _ => rfl) h (fun _ _ => trivial) fun _ _ _ _ => trivial

theorem Accounts.keeps (r : Accounts.Request) : Keeps (fun _ => True) (Accounts.plan ctx r) := by
  cases r with
  | create id email hash name verified => exact keeps_onUsers (keeps_insert trivial)
  | get id =>
    exact keeps_onUsers (keeps_query fun _ _ => stored_map (f := User.record) (fun _ => trivial) _)
  | getByEmail email =>
    exact keeps_onUsers (keeps_query fun _ _ => stored_map (f := User.record) (fun _ => trivial) _)
  | verifyEmail id => exact keeps_update fun s _ => ⟨trivial, stored_verifyEmail _ _ _ _⟩
  | setPasswordHash id hash => exact keeps_onUsers (keeps_update fun _ _ => ⟨trivial, trivial⟩)
  | setDisplayName id name => exact keeps_onUsers (keeps_update fun _ _ => ⟨trivial, trivial⟩)

theorem Sessions.keeps (r : Sessions.Request) : Keeps (fun _ => True) (Sessions.plan ctx r) := by
  cases r with
  | create id user hash given => exact keeps_insert trivial
  | find hash =>
    refine keeps_transaction ?_
    intro rows rows' a _ h
    cases h
    exact ⟨trivial, stored_map (f := Session.record) (fun _ => trivial) _⟩
  | logOut hash => exact keeps_update fun _ _ => ⟨trivial, trivial⟩
  | logOutUser user => exact keeps_update fun _ _ => ⟨trivial, trivial⟩
  | purge => exact keeps_update fun _ _ => ⟨trivial, trivial⟩

theorem EmailTokens.keeps (r : EmailTokens.Request) :
    Keeps (fun _ => True) (EmailTokens.plan ctx r) := by
  cases r with
  | create id user hash given => exact keeps_insert trivial
  | consume hash => exact keeps_update fun _ _ => ⟨trivial, trivial⟩
  | purge => exact keeps_update fun _ _ => ⟨trivial, trivial⟩

theorem IdentityLinks.keeps (r : IdentityLinks.Request) :
    Keeps (fun _ => True) (IdentityLinks.plan ctx r) := by
  cases r with
  | link provider subject user email =>
    exact keeps_map _ fun _ => keeps_update fun _ _ => ⟨trivial, trivial⟩
  | find provider subject =>
    simp only [IdentityLinks.plan]
    cases (Choice.ofValue? provider : Option Provider) with
    | none => exact keeps_answered trivial
    | some p => exact keeps_query fun _ _ => trivial

theorem OAuthStates.keeps (r : OAuthStates.Request) :
    Keeps (fun _ => True) (OAuthStates.plan ctx r) := by
  cases r with
  | create id provider uri given => exact keeps_map _ fun _ => keeps_insert trivial
  | consume id =>
    exact keeps_update fun _ _ =>
      ⟨trivial, stored_map (f := OAuthState.record) (fun _ => trivial) _⟩
  | purge => exact keeps_update fun _ _ => ⟨trivial, trivial⟩

theorem PasskeyChallenges.keeps (r : PasskeyChallenges.Request) :
    Keeps (fun _ => True) (PasskeyChallenges.plan ctx r) := by
  cases r with
  | create id challenge flow given user email => exact keeps_map _ fun _ => keeps_insert trivial
  | consume id =>
    exact keeps_update fun _ _ =>
      ⟨trivial, stored_map (f := PasskeyChallenge.record) (fun _ => trivial) _⟩
  | purge => exact keeps_update fun _ _ => ⟨trivial, trivial⟩

theorem Wallets.keeps (r : Wallets.Request) : Keeps (fun _ => True) (Wallets.plan ctx r) := by
  cases r with
  | create user account seed key network =>
    refine keeps_update fun rows _ => ⟨trivial, ?_⟩
    unfold Wallets.insert
    split <;> trivial
  | get user => exact keeps_query fun _ _ => stored_map (f := Wallet.record) (fun _ => trivial) _
  | acknowledge user =>
    exact keeps_update fun _ _ => ⟨trivial, stored_map (f := Wallet.record) (fun _ => trivial) _⟩

theorem Enrollments.keeps (r : Enrollments.Request) :
    Keeps (fun _ => True) (Enrollments.plan ctx r) := by
  have answered : ∀ id rows, (Enrollments.answer id rows).Stored :=
    fun _ _ => stored_map (f := Enrollment.record) (fun _ => trivial) _
  cases r with
  | enroll id kind owner email hash verified =>
    exact keeps_map _ fun _ => keeps_update fun _ _ => ⟨trivial, answered _ _⟩
  | approve id value => exact keeps_update fun _ _ => ⟨trivial, answered _ _⟩
  | verifyOwner owner => exact keeps_update fun _ _ => ⟨trivial, trivial⟩
  | touch id form =>
    simp only [Enrollments.plan]
    cases Enrollments.patchOf form with
    | error issues => exact keeps_error _
    | ok patch => exact keeps_update fun _ _ => ⟨trivial, answered _ _⟩
  | get id => exact keeps_query fun _ _ => answered _ _
  | listByOwner owner =>
    exact keeps_query fun _ _ => stored_maps (f := Enrollment.record) fun _ _ => trivial
  | checkToken id raw =>
    refine keeps_query fun rows _ => ?_
    unfold Enrollments.checkToken
    split
    · trivial
    · split <;> trivial

/-- An empty list of transports is stored as none, whoever registers it. -/
theorem PasskeyCredentials.keeps (r : PasskeyCredentials.Request) :
    Keeps (fun rows => ∀ c ∈ rows, c.Stored) (PasskeyCredentials.plan ctx r) := by
  have answered : ∀ id (rows : List PasskeyCredential), (∀ c ∈ rows, c.Stored) →
      (PasskeyCredentials.answer id rows).Stored := by
    intro id rows stored
    unfold PasskeyCredentials.answer
    cases hfind : PasskeyCredentials.find? id rows with
    | none => trivial
    | some c => exact stored c (List.mem_of_find?_eq_some hfind)
  cases r with
  | register reg transports =>
    refine keeps_map _ fun ts => keeps_update fun rows stored => ?_
    have new : (PasskeyCredentials.fresh reg ts ctx.clock).Stored := by
      unfold PasskeyCredential.Stored PasskeyCredentials.fresh
      intro heq
      simpa using (Option.filter_eq_some_iff.mp heq).2
    have kept := Rows.forall_upsert (p := (·.credentialId == reg.credentialId))
      (f := PasskeyCredentials.renewed (PasskeyCredentials.fresh reg ts ctx.clock))
      (fun _ _ => new) new stored
    exact ⟨kept, answered _ _ kept⟩
  | setCounter id counter =>
    exact keeps_update fun rows stored => ⟨Rows.forall_change (fun _ h => h) stored, trivial⟩
  | get id => exact keeps_query fun rows stored => answered _ _ stored
  | listForUser user =>
    refine keeps_query fun rows stored => stored_maps (f := PasskeyCredential.record) ?_
    intro c hc
    exact stored c (List.mem_of_mem_filter (List.mem_mergeSort.mp hc))
  | remove id user =>
    exact keeps_update fun rows stored =>
      ⟨fun c hc => stored c (Rows.mem_remove.mp hc).1, trivial⟩

/-- A call on another store leaves the credentials as they are. -/
theorem Call.keeps (c : Call) : Keeps Tables.Stored (c.plan ctx) := by
  cases c with
  | passkeyCredentials r =>
    exact keeps_on (fun _ => rfl) (PasskeyCredentials.keeps ctx r) (fun _ h => h) fun _ _ _ h => h
  | accounts r =>
    exact keeps_on (fun _ => rfl) (Accounts.keeps ctx r) (fun _ _ => trivial) fun _ _ h _ => h
  | sessions r =>
    exact keeps_on (fun _ => rfl) (Sessions.keeps ctx r) (fun _ _ => trivial) fun _ _ h _ => h
  | emailTokens r =>
    exact keeps_on (fun _ => rfl) (EmailTokens.keeps ctx r) (fun _ _ => trivial) fun _ _ h _ => h
  | identityLinks r =>
    exact keeps_on (fun _ => rfl) (IdentityLinks.keeps ctx r) (fun _ _ => trivial) fun _ _ h _ => h
  | oauthStates r =>
    exact keeps_on (fun _ => rfl) (OAuthStates.keeps ctx r) (fun _ _ => trivial) fun _ _ h _ => h
  | enrollments r =>
    exact keeps_on (fun _ => rfl) (Enrollments.keeps ctx r) (fun _ _ => trivial) fun _ _ h _ => h
  | wallets r =>
    exact keeps_on (fun _ => rfl) (Wallets.keeps ctx r) (fun _ _ => trivial) fun _ _ h _ => h
  | passkeyChallenges r =>
    exact keeps_on (fun _ => rfl) (PasskeyChallenges.keeps ctx r) (fun _ _ => trivial)
      fun _ _ h _ => h
  | purgeExpired => exact keeps_update fun _ h => ⟨h, trivial⟩

end requests

/-! ## Work and attempts -/

namespace Call

variable {ctx : Context} {c : Call} {t u : Tables} {a : Answer}

/-- A call that tells what is there and writes nothing. -/
def reads : Call → Bool
  | .accounts (.get _) | .accounts (.getByEmail _) => true
  | .sessions (.find _) => true
  | .identityLinks (.find _ _) => true
  | .enrollments (.get _) | .enrollments (.listByOwner _) | .enrollments (.checkToken _ _) => true
  | .wallets (.get _) => true
  | .passkeyCredentials (.get _) | .passkeyCredentials (.listForUser _) => true
  | _ => false

theorem eq_of_reads (h : c.reads = true) (he : c.effect ctx t = .ok (u, a)) : u = t := by
  cases c with
  | accounts r =>
    cases r with
    | get id =>
      cases he
      rfl
    | getByEmail email =>
      cases he
      rfl
    | _ => cases h
  | sessions r =>
    obtain ⟨rows, hr, rfl⟩ := Plan.exists_of_effectOf_on he fun _ => rfl
    cases r with
    | find hash =>
      simp only [Sessions.plan, Plan.effectOf_ok] at hr
      obtain ⟨-, hfind⟩ := Plan.effect_transaction_eq_ok_iff.mp hr
      cases hfind
      rfl
    | _ => cases h
  | identityLinks r =>
    obtain ⟨rows, hr, rfl⟩ := Plan.exists_of_effectOf_on he fun _ => rfl
    cases r with
    | find provider subject =>
      simp only [IdentityLinks.plan] at hr
      cases hp : (Choice.ofValue? provider : Option Provider) with
      | none =>
        rw [hp] at hr
        cases hr
        rfl
      | some p =>
        rw [hp] at hr
        cases hr
        rfl
    | _ => cases h
  | enrollments r =>
    cases r with
    | get id =>
      cases he
      rfl
    | listByOwner owner =>
      cases he
      rfl
    | checkToken id raw =>
      cases he
      rfl
    | _ => cases h
  | wallets r =>
    cases r with
    | get user =>
      cases he
      rfl
    | _ => cases h
  | passkeyCredentials r =>
    cases r with
    | get id =>
      cases he
      rfl
    | listForUser user =>
      cases he
      rfl
    | _ => cases h
  | _ => cases h

end Call

namespace Portal

variable {p : Portal} {c : Call} {conn : Connection} {prepared : Nat → Bool}

/-- What an attempt comes to, as work does. -/
def attempted (p : Portal) (conn : Connection) (c : Call) :
    Option Tables × Except Failure Answer :=
  ((p.attempt conn c).1, (p.attempt conn c).2.mapError .fault)

theorem attempted_eq (p : Portal) (conn : Connection) (c : Call) :
    p.attempted conn c = Plan.outcome (conn.knows c) (c.plan p.context) p.tables := by
  have performed : (c.plan p.context).bind (fun plan => plan.execute (conn.knows c) p.tables) =
      p.perform conn c := by
    unfold perform
    cases c.plan p.context <;> rfl
  unfold attempted attempt Plan.outcome
  rw [performed]
  cases p.perform conn c <;> rfl

/-- Work is what an attempt does on tables whose keys differ and whose credentials can be read. -/
theorem work_eq_attempt (differ : ∀ t, p.tables = some t → t.KeysDiffer)
    (stored : ∀ t, p.tables = some t → t.Stored) (known : prepared 0 = conn.knows c) :
    c.work p.context prepared p.tables = p.attempted conn c := by
  rw [attempted_eq, ← known]
  refine (c.realizes p.context).work_eq prepared differ ?_
  intro t u a ht he
  exact (c.keeps p.context t u a (stored t ht) he).2

/-- A failed attempt leaves the tables, and so does one that only reads. -/
theorem tables_of_reads (h : c.reads = true) : (p.attempt conn c).1 = p.tables := by
  cases ht : p.tables with
  | none => exact (attempt_none ht conn c).1
  | some t =>
    cases he : c.effect p.context t with
    | error f => rw [attempt_eq_of_effect_error ht conn he]
    | ok r =>
      obtain ⟨u, a⟩ := r
      rw [attempt_eq_of_effect_ok ht conn he, Call.eq_of_reads h he]

theorem tables_of_error {f : Fault} (h : (p.attempt conn c).2 = .error f) :
    (p.attempt conn c).1 = p.tables := by
  have moves := p.attempt_moves conn c
  rw [h] at moves
  exact Event.moves_error moves

end Portal

/-! ## After every run -/

theorem stored_of_moves {settings : Settings} (e : Event) (t u : Tables)
    (moves : e.Moves settings (some t) (some u)) (stored : t.Stored) : u.Stored :=
  Event.keep_of_moves moves stored fun c a heffect => (c.keeps _ t u a stored heffect).1

theorem keysDiffer_of_moves {settings : Settings} (e : Event) (t u : Tables)
    (moves : e.Moves settings (some t) (some u)) (h : t.KeysDiffer) : u.KeysDiffer :=
  Event.keep_of_moves moves h fun c a heffect => (c.realizes _).keeps t u a h heffect

theorem keysDiffer_of_course {settings : Settings} {h : List Event} {tables : Option Tables}
    (course : Course settings (some .empty) h tables) (t : Tables) (there : tables = some t) :
    t.KeysDiffer :=
  course.invariant Tables.keysDiffer_empty keysDiffer_of_moves t there

theorem stored_of_course {settings : Settings} {h : List Event} {tables : Option Tables}
    (course : Course settings (some .empty) h tables) (t : Tables) (there : tables = some t) :
    t.Stored :=
  course.invariant (P := Tables.Stored) (fun c hc => by cases hc) stored_of_moves t there

/-- Any call after any run, whatever the clock and with the schema or without it, carried out
statement by statement on any connection: the records that are handed back can be read, so it comes
to what the call attempts; if it fails, by a fault of the portal, all tables are as they were, row
by row; and so they are after a call that only reads. -/
theorem failure_changes_nothing (settings : Settings) (clock : Int) (steps : List Portal.Step)
    (c : Call) :
    let q := ((Portal.fresh settings clock).run steps).1
    (∀ (conn : Connection) (prepared : Nat → Bool), prepared 0 = conn.knows c →
      let w := c.work q.context prepared q.tables
      w = q.attempted conn c ∧
        (∀ f, w.2 = .error f → w.1 = q.tables ∧ ∃ fault, f = .fault fault) ∧
        (c.reads = true → w.1 = q.tables)) ∧
    (∀ f, (q.call c).2.outcome = .error f → (q.call c).1.tables = q.tables) ∧
    (c.reads = true → (q.call c).1.tables = q.tables) := by
  intro q
  have course := (Portal.fresh settings clock).run_course steps
  refine ⟨?_, fun f => Portal.tables_of_error, Portal.tables_of_reads⟩
  intro conn prepared known w
  have worked : w = q.attempted conn c :=
    Portal.work_eq_attempt (keysDiffer_of_course course) (stored_of_course course) known
  rw [worked]
  refine ⟨rfl, ?_, Portal.tables_of_reads⟩
  intro f hf
  cases hout : (q.attempt conn c).2 with
  | ok a =>
    rw [Portal.attempted, hout] at hf
    cases hf
  | error fault =>
    rw [Portal.attempted, hout] at hf
    cases hf
    exact ⟨Portal.tables_of_error hout, fault, rfl⟩

/-- A user is verified with the clock out of range, and looked up. -/
theorem verification_fails_out_of_range :
    let create : Call := .accounts (.create "u" "a@x.c" none none false)
    let verify : Call := .accounts (.verifyEmail "u")
    let get : Call := .accounts (.get "u")
    let q := ((Portal.fresh .standard 0).run [.call create, .advance wordBound]).1
    let w := verify.work q.context (fun _ => false) q.tables
    (w.2 = .error (.fault .integerOutOfRange) ∧ w.1 = q.tables) ∧
      ((q.call verify).2.outcome = .error .integerOutOfRange ∧
        (q.call verify).1.tables = q.tables) ∧
      get.reads = true ∧ (get.work q.context (fun _ => false) q.tables).1 = q.tables ∧
      (q.call get).1.tables = q.tables := by
  intro create verify get q w
  have fails : w.2 = .error (.fault .integerOutOfRange) := rfl
  have fails' : (q.call verify).2.outcome = .error .integerOutOfRange := rfl
  obtain ⟨worked, called, -⟩ :=
    failure_changes_nothing .standard 0 [.call create, .advance wordBound] verify
  obtain ⟨readWork, -, readCall⟩ :=
    failure_changes_nothing .standard 0 [.call create, .advance wordBound] get
  obtain ⟨-, undone, -⟩ := worked .fresh (fun _ => false) rfl
  obtain ⟨-, -, untouched⟩ := readWork .fresh (fun _ => false) rfl
  exact ⟨⟨fails, (undone _ fails).1⟩, ⟨fails', called _ fails'⟩, rfl, untouched rfl, readCall rfl⟩

end AccountPortal

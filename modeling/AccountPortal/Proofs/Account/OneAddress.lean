import AccountPortal.Proofs.Account.Change
import AccountPortal.Proofs.Text.LowerCase

/-!
# One account per address

Addresses are stored normalised, and no two users share an id or an address (`Proper`); every
request keeps this, so it holds after every run. Since normalising an address that is stored changes
nothing, nor does the folding of the database, a look-up by any spelling of an address finds the one
user who has it, and a create is refused just when a look-up by its id or its address finds someone:

    every look-up and every create after a run is answered so                (one_user_per_address)
-/

namespace AccountPortal

namespace Accounts

/-- Addresses are stored normalised, and no two users share an id or an address. -/
structure Proper (users : List User) : Prop where
  normal : ∀ u ∈ users, normalizeEmail u.email = u.email
  ids : (users.map User.userId).Nodup
  emails : (users.map User.email).Nodup

variable {now : Int} {users users' : List User} {a : Answer} {f : User → User}

/-! ## Every request keeps it -/

theorem Proper.change {p : User → Bool} (h : Proper users)
    (hid : ∀ u, (f u).userId = u.userId) (hemail : ∀ u, (f u).email = u.email) :
    Proper (Rows.change p f users) := by
  refine ⟨?_, ?_, ?_⟩
  · intro u hu
    obtain ⟨v, hv, rfl⟩ := Rows.mem_change.mp hu
    have same : (if p v then f v else v).email = v.email := by
      split
      · exact hemail v
      · rfl
    rw [same]
    exact h.normal v hv
  · rw [Rows.map_change hid]
    exact h.ids
  · rw [Rows.map_change hemail]
    exact h.emails

theorem proper_nil : Proper [] :=
  ⟨by simp, List.nodup_nil, List.nodup_nil⟩

theorem Proper.create {new : User} (h : Proper users) (hnew : normalizeEmail new.email = new.email)
    (free : ∀ u ∈ users, u.userId ≠ new.userId ∧ u.email ≠ new.email) :
    Proper (users ++ [new]) := by
  refine ⟨?_, ?_, ?_⟩
  · intro u hu
    rcases List.mem_append.mp hu with hu | hu
    · exact h.normal u hu
    · rw [List.mem_singleton.mp hu]
      exact hnew
  · exact Rows.nodup_map_append h.ids fun u hu => (free u hu).1
  · exact Rows.nodup_map_append h.emails fun u hu => (free u hu).2

theorem Proper.answered {r : Request} (h : Proper users) (made : Answered now users r users' a) :
    Proper users' := by
  cases made with
  | create free => exact h.create (normalizeEmail_normalizeEmail _) free
  | get id => exact h
  | getByEmail email => exact h
  | verifyEmail id nodes => exact h.change (fun _ => rfl) fun _ => rfl
  | setPasswordHash id hash => exact h.change (fun _ => rfl) fun _ => rfl
  | setDisplayName id name => exact h.change (fun _ => rfl) fun _ => rfl

theorem proper_of_moves {settings : Settings} (e : Event) (t u : Tables)
    (moves : e.Moves settings (some t) (some u)) (h : Proper t.users) : Proper u.users := by
  rcases users_of_moves moves with ⟨r, a, -, made⟩ | ⟨same, -⟩
  · exact h.answered made
  · rw [same]
    exact h

theorem proper_of_course {settings : Settings} {h : List Event} {tables : Option Tables}
    (course : Course settings (some .empty) h tables) : ∀ t, tables = some t → Proper t.users :=
  course.invariant (P := fun t => Proper t.users) proper_nil proper_of_moves

/-! ## Look-ups -/

theorem Proper.find?_eq_some_iff (h : Proper users) (id : String) (u : User) :
    find? id users = some u ↔ u ∈ users ∧ u.userId = id :=
  Rows.find?_key_eq_some_iff h.ids

/-- The database has nothing to fold in an address that is stored. -/
theorem Proper.findByEmail?_eq_some_iff (h : Proper users) (email : String) (u : User) :
    findByEmail? email users = some u ↔ u ∈ users ∧ u.email = normalizeEmail email := by
  have unfolded : findByEmail? email users = users.find? (·.email == normalizeEmail email) := by
    apply List.find?_congr
    intro v hv
    have stored : asciiLower v.email = v.email := by
      rw [← h.normal v hv, asciiLower_normalizeEmail]
    rw [stored]
  rw [unfolded]
  exact Rows.find?_key_eq_some_iff h.emails

theorem Proper.findByEmail?_own (h : Proper users) {u : User} (hu : u ∈ users) :
    findByEmail? u.email users = some u :=
  (h.findByEmail?_eq_some_iff u.email u).mpr ⟨hu, (h.normal u hu).symm⟩

theorem Proper.pairwise (h : Proper users) :
    users.Pairwise fun u v =>
      u.userId ≠ v.userId ∧ normalizeEmail u.email ≠ normalizeEmail v.email := by
  have ids := List.pairwise_map.mp h.ids
  have emails := List.pairwise_map.mp h.emails
  refine (ids.and emails).imp_of_mem ?_
  intro u v hu hv huv
  rw [h.normal u hu, h.normal v hv]
  exact huv

/-- A key is taken just when a look-up by it finds someone. -/
theorem Proper.any_taken (h : Proper users) (id email : String) :
    (users.any fun u => u.userId == id || u.email == normalizeEmail email) =
      ((find? id users).isSome || (findByEmail? email users).isSome) := by
  rw [Bool.eq_iff_iff, List.any_eq_true, Bool.or_eq_true, Option.isSome_iff_exists,
    Option.isSome_iff_exists]
  simp only [h.find?_eq_some_iff, h.findByEmail?_eq_some_iff, Bool.or_eq_true, beq_iff_eq]
  constructor
  · rintro ⟨u, hu, hid | hemail⟩
    · exact Or.inl ⟨u, hu, hid⟩
    · exact Or.inr ⟨u, hu, hemail⟩
  · rintro (⟨u, hu, hid⟩ | ⟨u, hu, hemail⟩)
    · exact ⟨u, hu, Or.inl hid⟩
    · exact ⟨u, hu, Or.inr hemail⟩

end Accounts

/-! ## Calls -/

theorem Call.effect_accounts (ctx : Context) (r : Accounts.Request) (t : Tables) :
    (Call.accounts r).effect ctx t =
      (Plan.effectOf (Accounts.plan ctx r) (t.users, t.enrollments)).map
        fun (s, a) => ({ t with users := s.1, enrollments := s.2 }, a) :=
  Plan.effectOf_on _ _ _ t fun _ => rfl

namespace Portal

variable {p : Portal} {t : Tables}

theorem outcome_get (h : p.tables = some t) (id : String) :
    (p.call (.accounts (.get id))).2.outcome =
      .ok (.record ((Accounts.find? id t.users).map User.record)) :=
  outcome_of_effect_ok h rfl

theorem outcome_getByEmail (h : p.tables = some t) (email : String) :
    (p.call (.accounts (.getByEmail email))).2.outcome =
      .ok (.record ((Accounts.findByEmail? email t.users).map User.record)) :=
  outcome_of_effect_ok h rfl

/-- A create with the clock in range meets a key in use, or is answered with the new user. -/
theorem outcome_create (h : p.tables = some t) (fits : fitsWord p.clock = true)
    (id email : String) (hash name : Option String) (verified : Bool) :
    (p.call (.accounts (.create id email hash name verified))).2.outcome =
      if t.users.any fun u => u.userId == id || u.email == normalizeEmail email then
        .error (.taken "user" "user id or email already registered")
      else .ok (.record (some (.user (Accounts.fresh id email hash name verified p.clock)))) := by
  let new := Accounts.fresh id email hash name verified p.clock
  have effect : (Call.accounts (.create id email hash name verified)).effect p.context t =
      (Accounts.insert new t.users).map fun r => ({ t with users := r.1 }, r.2) := by
    rw [Call.effect_accounts, Accounts.plan, Plan.effectOf_ok, Accounts.effect_onUsers]
    simp only [Plan.effect, context, List.all_cons, fits, List.all_nil, Bool.and_true, if_pos]
    cases Accounts.insert new t.users <;> rfl
  split
  · next inUse =>
    have refused : Accounts.insert new t.users =
        .error (.taken "user" "user id or email already registered") := if_pos inUse
    rw [refused] at effect
    exact outcome_of_effect_error h effect
  · next free =>
    have added : Accounts.insert new t.users = .ok (t.users ++ [new], .record (some new.record)) :=
      if_neg free
    rw [added] at effect
    exact outcome_of_effect_ok h effect

end Portal

/-! ## After every run -/

/-- Whatever happened, while the schema is there: addresses are stored normalised, no two users
share an id or an address, a look-up by any spelling of an address finds the user who has it, and a
create is refused just when a look-up by its id or its address finds someone. -/
theorem one_user_per_address (settings : Settings) (clock : Int) (steps : List Portal.Step) :
    let q := ((Portal.fresh settings clock).run steps).1
    ∀ t, q.tables = some t →
      (∀ u ∈ t.users, normalizeEmail u.email = u.email) ∧
      (t.users.Pairwise fun u v =>
        u.userId ≠ v.userId ∧ normalizeEmail u.email ≠ normalizeEmail v.email) ∧
      (∀ email, ∃ found : Option User,
        (q.call (.accounts (.getByEmail email))).2.outcome =
          .ok (.record (found.map User.record)) ∧
        ∀ u, found = some u ↔ u ∈ t.users ∧ u.email = normalizeEmail email) ∧
      (∀ u ∈ t.users,
        (q.call (.accounts (.getByEmail u.email))).2.outcome = .ok (.record (some u.record))) ∧
      (fitsWord q.clock = true → ∀ id email hash name verified,
        ∃ byId byEmail : Option User,
          (q.call (.accounts (.get id))).2.outcome = .ok (.record (byId.map User.record)) ∧
          (q.call (.accounts (.getByEmail email))).2.outcome =
            .ok (.record (byEmail.map User.record)) ∧
          (q.call (.accounts (.create id email hash name verified))).2.outcome =
            if byId.isSome || byEmail.isSome then
              .error (.taken "user" "user id or email already registered")
            else
              .ok (.record
                (some (.user (Accounts.fresh id email hash name verified q.clock))))) := by
  intro q t present
  have proper : Accounts.Proper t.users :=
    Accounts.proper_of_course ((Portal.fresh settings clock).run_course steps) t present
  refine ⟨proper.normal, proper.pairwise, ?_, ?_, ?_⟩
  · intro email
    exact ⟨Accounts.findByEmail? email t.users, Portal.outcome_getByEmail present email,
      proper.findByEmail?_eq_some_iff email⟩
  · intro u hu
    rw [Portal.outcome_getByEmail present, proper.findByEmail?_own hu]
    rfl
  · intro fits id email hash name verified
    refine ⟨Accounts.find? id t.users, Accounts.findByEmail? email t.users,
      Portal.outcome_get present id, Portal.outcome_getByEmail present email, ?_⟩
    rw [Portal.outcome_create present fits, proper.any_taken]

/-- A user who is found by another spelling, and whose address nobody else gets. -/
theorem user_found_by_other_spelling :
    let create (id email : String) : Call := .accounts (.create id email none none false)
    let ada : User := Accounts.fresh "u" " A@X.c " none none false 5
    let q := ((Portal.fresh .standard 5).run [.call (create "u" " A@X.c ")]).1
    (∃ t, q.tables = some t ∧ t.users = [ada]) ∧ ada.email = "a@x.c" ∧ fitsWord q.clock = true ∧
      (q.call (.accounts (.getByEmail "a@x.c"))).2.outcome = .ok (.record (some ada.record)) ∧
      (q.call (create "v" "a@X.C")).2.outcome =
        .error (.taken "user" "user id or email already registered") := by
  intro create ada q
  have present : q.tables = some { Tables.empty with users := [ada] } := rfl
  have spelt : ada.email = "a@x.c" := rfl
  have folded : normalizeEmail "a@X.C" = "a@x.c" := rfl
  obtain ⟨-, -, found, own, creates⟩ :=
    one_user_per_address .standard 5 [.call (create "u" " A@X.c ")] _ present
  refine ⟨⟨_, present, rfl⟩, spelt, rfl, ?_, ?_⟩
  · rw [← spelt]
    exact own ada (List.mem_singleton_self ada)
  · obtain ⟨byId, byEmail, -, hemail, outcome⟩ := creates rfl "v" "a@X.C" none none false
    obtain ⟨there, heq, hiff⟩ := found "a@X.C"
    have hit : there = some ada := (hiff ada).mpr ⟨List.mem_singleton_self ada, folded.symm ▸ spelt⟩
    rw [heq, hit] at hemail
    have taken : byEmail.isSome = true := by
      cases byEmail with
      | none => cases hemail
      | some u => rfl
    rw [outcome, taken, Bool.or_true, if_pos rfl]

end AccountPortal

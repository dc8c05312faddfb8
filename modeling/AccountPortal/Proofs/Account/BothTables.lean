import AccountPortal.Proofs.Failure.Atomic

/-!
# A verification writes both tables or neither

The verification of a user's email is told to the database in two statements, one for the user and
one for the user's nodes, and ends in one of three ways (`BothOrNeither`): it fails, or finds no
such user, and leaves all tables as they were; or it marks the user and every node of the user, and
hands back the user. The nodes are then as the verification of their owner alone would leave them
(`effect_verifyOwner`).

The mark of the user is undone when the second statement fails, whatever it is and whatever it has
written until then (`transaction_markThen_of_error`).
-/

namespace AccountPortal

open Work

/-! ## How it may end -/

namespace Accounts

/-- The row of a user once it is verified. The time of the first verification is kept. -/
def marked (now : Int) (u : User) : User :=
  { u with emailVerified := true, verifiedAt := some (u.verifiedAt.getD now) }

/-- The tables once a user is verified. -/
def verifiedTables (id : String) (now : Int) (t : Tables) : Tables :=
  { t with
    users := t.users.map fun u => if u.userId = id then marked now u else u
    enrollments := t.enrollments.map fun e =>
      if e.ownerUserId = id then
        { e with emailVerified := true, active := e.nodeApproved, updatedAt := now }
      else e }

/-- How a verification may end: the tables before it and after it, by its outcome. -/
def BothOrNeither (id : String) (now : Int) (before after : Option Tables) :
    Except Fault Answer → Prop
  | .error _ => after = before
  | .ok (.verified none n) =>
    after = before ∧ n = 0 ∧ ∃ t, before = some t ∧ ∀ u ∈ t.users, u.userId ≠ id
  | .ok (.verified (some u) n) =>
    ∃ t, before = some t ∧ after = some (verifiedTables id now t) ∧
      (∃ old ∈ t.users, old.userId = id ∧ u = marked now old) ∧
      n = (t.enrollments.filter (·.ownerUserId = id)).length
  | .ok _ => False

variable {id : String} {now : Int} {users : List User} {nodes : List Enrollment} {u : User}
  {t : Tables}

theorem verified_eq_marked (now : Int) (u : User) : verified now u = marked now u := by
  unfold verified marked
  cases u.verifiedAt <;> rfl

theorem change_verified (id : String) (now : Int) (t : Tables) :
    Rows.change (·.userId == id) (verified now) t.users = (verifiedTables id now t).users := by
  apply List.map_congr_left
  intro u _
  simp only [beq_iff_eq, verified_eq_marked]

theorem verifyOwner_eq (id : String) (now : Int) (t : Tables) :
    Enrollments.verifyOwner id now t.enrollments =
      ((verifiedTables id now t).enrollments,
        (t.enrollments.filter (·.ownerUserId = id)).length) := by
  apply Prod.ext
  · apply List.map_congr_left
    intro e _
    simp only [beq_iff_eq, Enrollments.ownerVerified, deriveActive, Bool.and_true]
  · exact List.countP_eq_length_filter

theorem verifyEmail_of_unknown (h : find? id users = none) :
    verifyEmail id now users nodes = ((users, nodes), .verified none 0) := by
  unfold verifyEmail
  rw [h]

theorem verifyEmail_of_known (h : find? id t.users = some u) :
    verifyEmail id now t.users t.enrollments =
      (((verifiedTables id now t).users, (verifiedTables id now t).enrollments),
        .verified (some (marked now u)) (t.enrollments.filter (·.ownerUserId = id)).length) := by
  unfold verifyEmail
  rw [h, ← change_verified, verifyOwner_eq, ← verified_eq_marked]

theorem bothOrNeither_of_unknown (h : find? id t.users = none) (now : Int) :
    BothOrNeither id now (some t) (some t) (.ok (.verified none 0)) :=
  ⟨rfl, rfl, t, rfl, fun u hu => by simpa using List.find?_eq_none.mp h u hu⟩

theorem bothOrNeither_of_known (h : find? id t.users = some u) (now : Int) :
    BothOrNeither id now (some t) (some (verifiedTables id now t))
      (.ok (.verified (some (marked now u)) (t.enrollments.filter (·.ownerUserId = id)).length)) :=
  ⟨t, rfl, rfl,
    ⟨u, List.mem_of_find?_eq_some h, by simpa [find?] using List.find?_some h, rfl⟩, rfl⟩

end Accounts

/-! ## The call -/

namespace Call

variable (ctx : Context) {id : String} {t : Tables} {u : User}

theorem effect_verifyEmail_of_unfit (unfit : fitsWord ctx.clock = false) :
    (Call.accounts (.verifyEmail id)).effect ctx t = .error .integerOutOfRange := by
  rw [Accounts.effect_verifyEmail, unfit]
  rfl

theorem effect_verifyEmail_of_unknown (fits : fitsWord ctx.clock = true)
    (h : Accounts.find? id t.users = none) :
    (Call.accounts (.verifyEmail id)).effect ctx t = .ok (t, .verified none 0) := by
  rw [Accounts.effect_verifyEmail, if_pos fits, Accounts.verifyEmail_of_unknown h]

theorem effect_verifyEmail_of_known (fits : fitsWord ctx.clock = true)
    (h : Accounts.find? id t.users = some u) :
    (Call.accounts (.verifyEmail id)).effect ctx t =
      .ok (Accounts.verifiedTables id ctx.clock t,
        .verified (some (Accounts.marked ctx.clock u))
          (t.enrollments.filter (·.ownerUserId = id)).length) := by
  rw [Accounts.effect_verifyEmail, if_pos fits, Accounts.verifyEmail_of_known h]
  rfl

/-- The verification of an owner makes of the nodes what the user's makes of them. -/
theorem effect_verifyOwner (id : String) (t : Tables) (fits : fitsWord ctx.clock = true) :
    (Call.enrollments (.verifyOwner id)).effect ctx t =
      .ok ({ t with enrollments := (Accounts.verifiedTables id ctx.clock t).enrollments },
        .count (t.enrollments.filter (·.ownerUserId = id)).length) := by
  refine (effect_of_update ctx (.enrollments (.verifyOwner id)) rfl (fun _ => rfl) t).trans ?_
  rw [if_pos fits, Accounts.verifyOwner_eq]

/-! ## Statement by statement -/

/-- The mark is undone where the nodes cannot be told of it, whatever was written of that. -/
theorem transaction_markThen_of_error {prepared : Bool} {now : Int} {tell : Work Nat}
    {after : Option Tables} {f : Failure} (fits : fitsWord now = true)
    (h : Accounts.find? id t.users = some u)
    (fails : tell (some { t with users := (Accounts.verifiedTables id now t).users }) =
      (after, .error f)) :
    transaction (Accounts.markThen prepared id now tell) (some t) = (some t, .error f) := by
  have told := Accounts.statement_marking fits prepared id t
  rw [h, Accounts.change_verified] at told
  exact transaction_of_error ((bind_of_ok told).trans (bind_of_error fails))

end Call

namespace Portal

variable {p : Portal} {id : String}

theorem outcome_verifyEmail_none (h : p.tables = none) :
    ∃ f, (p.call (.accounts (.verifyEmail id))).2.outcome = .error f := by
  cases hout : (p.call (.accounts (.verifyEmail id))).2.outcome with
  | error f => exact ⟨f, rfl⟩
  | ok a => cases (attempt_none h (.next p.connections) (.accounts (.verifyEmail id))).2 a hout

/-- A verification fails just when the schema is dropped or the clock out of range. -/
theorem verifyEmail_fails_iff (p : Portal) (id : String) :
    (∃ f, (p.call (.accounts (.verifyEmail id))).2.outcome = .error f) ↔
      p.tables = none ∨ fitsWord p.clock = false := by
  cases ht : p.tables with
  | none => simp [outcome_verifyEmail_none ht]
  | some t =>
    cases fits : fitsWord p.clock with
    | false => simp [outcome_of_effect_error ht (Call.effect_verifyEmail_of_unfit p.context fits)]
    | true =>
      cases hfind : Accounts.find? id t.users with
      | none =>
        simp [outcome_of_effect_ok ht (Call.effect_verifyEmail_of_unknown p.context fits hfind)]
      | some u =>
        simp [outcome_of_effect_ok ht (Call.effect_verifyEmail_of_known p.context fits hfind)]

theorem bothOrNeither (p : Portal) (id : String) :
    Accounts.BothOrNeither id p.clock p.tables (p.call (.accounts (.verifyEmail id))).1.tables
      (p.call (.accounts (.verifyEmail id))).2.outcome := by
  by_cases fails : ∃ f, (p.call (.accounts (.verifyEmail id))).2.outcome = .error f
  · obtain ⟨f, hf⟩ := fails
    rw [hf]
    exact tables_of_error hf
  · rw [verifyEmail_fails_iff, not_or, Bool.not_eq_false] at fails
    obtain ⟨present, fits⟩ := fails
    obtain ⟨t, ht⟩ := Option.ne_none_iff_exists'.mp present
    rw [ht]
    cases hfind : Accounts.find? id t.users with
    | none =>
      have he := Call.effect_verifyEmail_of_unknown p.context fits hfind
      rw [outcome_of_effect_ok ht he, tables_of_effect_ok ht he]
      exact Accounts.bothOrNeither_of_unknown hfind p.clock
    | some u =>
      have he := Call.effect_verifyEmail_of_known p.context fits hfind
      rw [outcome_of_effect_ok ht he, tables_of_effect_ok ht he]
      exact Accounts.bothOrNeither_of_known hfind p.clock

/-- A known user is verified as the owner of the nodes is, and both report the same number. -/
theorem told_of_verified {u : User} {n : Nat}
    (h : (p.call (.accounts (.verifyEmail id))).2.outcome = .ok (.verified (some u) n)) :
    (p.call (.enrollments (.verifyOwner id))).2.outcome = .ok (.count n) ∧
      (p.call (.enrollments (.verifyOwner id))).1.tables.map (·.enrollments) =
        (p.call (.accounts (.verifyEmail id))).1.tables.map (·.enrollments) := by
  have ends := p.bothOrNeither id
  rw [h] at ends
  obtain ⟨t, ht, after, -, rfl⟩ := ends
  have fits : fitsWord p.clock = true := by
    rw [← Bool.not_eq_false]
    intro unfit
    obtain ⟨f, hf⟩ := (p.verifyEmail_fails_iff id).mpr (Or.inr unfit)
    rw [h] at hf
    cases hf
  have he := Call.effect_verifyOwner p.context id t fits
  rw [outcome_of_effect_ok ht he, tables_of_effect_ok ht he, after]
  exact ⟨rfl, rfl⟩

end Portal

/-! ## Both or neither -/

/-- Of any tables, at any clock and on any connections, a verification has one of three endings. It
fails, just when there is no schema or the clock is out of range, or the user is unknown: all tables
are as they were. Or it marks the user and the user's nodes, which are then as the verification of
the owner alone leaves them, and both report how many they are. Told statement by statement it comes
to the same, and were the second statement to fail in any way, all tables would be as they were. -/
theorem verification_writes_both_or_neither (p : Portal) (id : String) :
    let verify : Call := .accounts (.verifyEmail id)
    let tell : Call := .enrollments (.verifyOwner id)
    Accounts.BothOrNeither id p.clock p.tables (p.call verify).1.tables
      (p.call verify).2.outcome ∧
    ((∃ f, (p.call verify).2.outcome = .error f) ↔
      p.tables = none ∨ fitsWord p.clock = false) ∧
    (∀ u n, (p.call verify).2.outcome = .ok (.verified (some u) n) →
      (p.call tell).2.outcome = .ok (.count n) ∧
      (p.call tell).1.tables.map (·.enrollments) =
        (p.call verify).1.tables.map (·.enrollments) ∧
      (p.call verify).2.log = [⟨.info, .accounts,
        "User " ++ id ++ " email verified; " ++ toString n ++ " node(s) updated"⟩] ∧
      (p.call tell).2.log = [⟨.info, .enrollments,
        "Email verification applied to " ++ toString n ++ " node(s) of " ++ id⟩]) ∧
    ∀ (conn : Connection) (prepared : Nat → Bool), prepared 0 = conn.knows verify →
      Accounts.verifyWith (prepared 0) id p.clock
        (statement (prepared 1) (Enrollments.telling id p.clock (·))) p.tables =
          p.attempted conn verify ∧
      ∀ t u (second : Work Nat) after f, p.tables = some t → fitsWord p.clock = true →
        Accounts.find? id t.users = some u →
        second (some { t with users := (Accounts.verifiedTables id p.clock t).users }) =
          (after, .error f) →
        Accounts.verifyWith (prepared 0) id p.clock second p.tables = (p.tables, .error f) := by
  intro verify tell
  refine ⟨p.bothOrNeither id, p.verifyEmail_fails_iff id, ?_, ?_⟩
  · intro u n h
    obtain ⟨counted, same⟩ := Portal.told_of_verified h
    refine ⟨counted, same, ?_, ?_⟩
    · show verify.report p.context (p.call verify).2.outcome = _
      rw [h]
      rfl
    · show tell.report p.context (p.call tell).2.outcome = _
      rw [counted]
      rfl
  · intro conn prepared known
    refine ⟨?_, ?_⟩
    · rw [Portal.attempted_eq, ← known]
      exact Accounts.verifyWith_eq p.context prepared id p.tables
    · intro t u second after f ht fits hfind fails
      rw [ht]
      exact bind_of_error (Call.transaction_markThen_of_error fits hfind fails)

/-- A user with one node among two is verified, and is not when the second statement has removed
every session and then fails. -/
theorem user_and_node_verified_together :
    let user : User := ⟨"u", "a@x.c", false, none, none, 3, none⟩
    let node (id owner : String) : Enrollment :=
      ⟨id, .agent, owner, "a@x.c", "h", false, true, false, none, none, none, none, 3, 3⟩
    let t : Tables := { Tables.empty with
      users := [user]
      sessions := [⟨"s", "u", "h", 9, 3⟩]
      enrollments := [node "n" "u", node "m" "v"] }
    let p : Portal := ⟨.standard, 7, some t, [.fresh]⟩
    let verify : Call := .accounts (.verifyEmail "u")
    let tell : Call := .enrollments (.verifyOwner "u")
    let second : Work Nat := fun tables =>
      (tables.map fun t => { t with sessions := [] }, .error (.fault .schemaMissing))
    (p.call verify).2.outcome = .ok (.verified (some (Accounts.marked 7 user)) 1) ∧
      (p.call tell).2.outcome = .ok (.count 1) ∧
      (p.call tell).1.tables.map (·.enrollments) =
        (p.call verify).1.tables.map (·.enrollments) ∧
      Connection.knows .fresh verify = false ∧ p.tables = some t ∧ fitsWord p.clock = true ∧
      Accounts.find? "u" t.users = some user ∧
      second (some { t with users := (Accounts.verifiedTables "u" 7 t).users }) =
        (some { t with users := (Accounts.verifiedTables "u" 7 t).users, sessions := [] },
          .error (.fault .schemaMissing)) ∧
      Accounts.verifyWith false "u" 7 second p.tables =
        (p.tables, .error (.fault .schemaMissing)) := by
  intro user node t p verify tell second
  have verified : (p.call verify).2.outcome =
      .ok (.verified (some (Accounts.marked 7 user)) 1) := rfl
  have found : Accounts.find? "u" t.users = some user := rfl
  obtain ⟨-, -, told, statements⟩ := verification_writes_both_or_neither p "u"
  obtain ⟨counted, same, -⟩ := told _ _ verified
  obtain ⟨-, undone⟩ := statements .fresh (fun _ => false) rfl
  exact ⟨verified, counted, same, rfl, rfl, rfl, found, rfl,
    undone t user second _ _ rfl rfl found rfl⟩

end AccountPortal

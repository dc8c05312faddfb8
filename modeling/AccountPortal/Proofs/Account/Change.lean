import AccountPortal.Proofs.Enrollment.Change

/-!
# Requests on the accounts

What a request that is answered makes of the users, request by request, and that no event does
anything else to them:

    e.Moves settings (some t) (some u) →
      an account request of `e` made the users so, or else u.users = t.users     (users_of_moves)

A user is created under a free id and a free address, and no later request changes these two.
-/

namespace AccountPortal.Accounts

/-- The users after a request that is answered, and its answer. -/
inductive Answered (now : Int) (users : List User) : Request → List User → Answer → Prop where
  | create {id email : String} {hash name : Option String} {verified : Bool}
      (free : ∀ u ∈ users, u.userId ≠ id ∧ u.email ≠ normalizeEmail email) :
      Answered now users (.create id email hash name verified)
        (users ++ [fresh id email hash name verified now])
        (.record (some (fresh id email hash name verified now).record))
  | get (id : String) :
      Answered now users (.get id) users (.record ((find? id users).map User.record))
  | getByEmail (email : String) :
      Answered now users (.getByEmail email) users
        (.record ((findByEmail? email users).map User.record))
  | verifyEmail (id : String) (nodes : Nat) :
      Answered now users (.verifyEmail id) (Rows.change (·.userId == id) (verified now) users)
        (.verified ((find? id users).map (verified now)) nodes)
  | setPasswordHash (id hash : String) :
      Answered now users (.setPasswordHash id hash)
        (Rows.change (·.userId == id) (fun u => { u with passwordHash := some hash }) users)
        (.flag (users.any (·.userId == id)))
  | setDisplayName (id : String) (name : Option String) :
      Answered now users (.setDisplayName id name)
        (Rows.change (·.userId == id) (fun u => { u with displayName := name }) users)
        (.flag (users.any (·.userId == id)))

variable {ctx : Context} {users users' : List User} {nodes nodes' : List Enrollment} {a : Answer}

theorem effect_of_onUsers {plan : Plan (List User)}
    (h : (onUsers plan).effect (users, nodes) = .ok ((users', nodes'), a)) :
    plan.effect users = .ok (users', a) := by
  rw [effect_onUsers] at h
  obtain ⟨r, hr, heq⟩ := Except.map_eq_ok_iff.mp h
  cases heq
  exact hr

theorem answered_of_verifyEmail (id : String) (now : Int) (users : List User)
    (nodes : List Enrollment) :
    Answered now users (.verifyEmail id) (verifyEmail id now users nodes).1.1
      (verifyEmail id now users nodes).2 := by
  unfold verifyEmail
  cases hfind : find? id users with
  | none =>
    -- a user who is unknown has no row to be changed
    have same : Rows.change (·.userId == id) (verified now) users = users :=
      Rows.change_eq_self fun u hu => by simpa using List.find?_eq_none.mp hfind u hu
    have unknown : Answered now users (.verifyEmail id) _ _ := .verifyEmail id 0
    rw [hfind, same] at unknown
    exact unknown
  | some u =>
    have known : Answered now users (.verifyEmail id) _ _ :=
      .verifyEmail id (Enrollments.verifyOwner id now nodes).2
    rw [hfind] at known
    exact known

theorem answered_of_effect (r : Request)
    (h : Plan.effectOf (plan ctx r) (users, nodes) = .ok ((users', nodes'), a)) :
    Answered ctx.clock users r users' a := by
  cases r with
  | create id email hash name verified =>
    simp only [plan, Plan.effectOf_ok] at h
    obtain ⟨-, hinsert⟩ := Plan.effect_transaction_eq_ok_iff.mp (effect_of_onUsers h)
    obtain ⟨free, rfl, rfl⟩ := Rows.eq_of_insert_ok hinsert
    refine .create ?_
    intro u hu
    obtain ⟨hid, hemail⟩ := Bool.or_eq_false_iff.mp (free u hu)
    exact ⟨beq_eq_false_iff_ne.mp hid, beq_eq_false_iff_ne.mp hemail⟩
  | get id =>
    simp only [plan, Plan.effectOf_ok] at h
    cases effect_of_onUsers h
    exact .get id
  | getByEmail email =>
    simp only [plan, Plan.effectOf_ok] at h
    cases effect_of_onUsers h
    exact .getByEmail email
  | verifyEmail id =>
    simp only [plan, Plan.effectOf_ok] at h
    obtain ⟨-, hs, rfl⟩ := Plan.effect_update_eq_ok_iff.mp h
    have made := answered_of_verifyEmail id ctx.clock users nodes
    rw [hs] at made
    exact made
  | setPasswordHash id hash =>
    simp only [plan, Plan.effectOf_ok] at h
    obtain ⟨-, rfl, rfl⟩ := Plan.effect_update_eq_ok_iff.mp (effect_of_onUsers h)
    exact .setPasswordHash id hash
  | setDisplayName id name =>
    simp only [plan, Plan.effectOf_ok] at h
    obtain ⟨-, rfl, rfl⟩ := Plan.effect_update_eq_ok_iff.mp (effect_of_onUsers h)
    exact .setDisplayName id name

/-! ## Events -/

variable {t u : Tables} {c : Call}

theorem users_of_effect (h : c.effect ctx t = .ok (u, a)) (other : ∀ r, c ≠ .accounts r) :
    u.users = t.users := by
  cases c with
  | accounts r => exact absurd rfl (other r)
  | purgeExpired =>
    obtain ⟨-, rfl, -⟩ := Plan.effect_update_eq_ok_iff.mp h
    rfl
  | _ => exact Plan.keep_of_effectOf_on h (fun _ => rfl) Tables.users fun _ _ => rfl

theorem users_of_moves {settings : Settings} {e : Event} (h : e.Moves settings (some t) (some u)) :
    (∃ r a, e.deed = .call (.accounts r) (.ok a) ∧ Answered e.clock t.users r u.users a) ∨
      (u.users = t.users ∧ ∀ r a, e.deed ≠ .call (.accounts r) (.ok a)) := by
  rcases Event.asked_or_kept_of_moves h users_of_effect with ⟨r, a, hdeed, heffect⟩ | kept
  · obtain ⟨⟨users, nodes⟩, hr, rfl⟩ := Plan.exists_of_effectOf_on heffect fun _ => rfl
    exact Or.inl ⟨r, a, hdeed, answered_of_effect r hr⟩
  · exact Or.inr kept

end AccountPortal.Accounts

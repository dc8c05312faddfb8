import AccountPortal.Proofs.Account.OneAddress
import AccountPortal.Proofs.Since

/-!
# Verification of accounts

A user is marked as verified together with the time, once: no later event takes the mark away, gives
it another date or changes the user's id, address or date of creation (`Later`), whatever becomes of
the clock. While the schema is kept the row of a user follows from the history: it begins with the
first create that is answered, and is verified then or by the first verification that finds it:

    earliest (creation? id) h = none         → no row of `id`
    earliest (creation? id) h = some first   → one row of `id`, which `FollowsHistory id h first`
                                                                       (verified_once_and_for_all)
-/

namespace AccountPortal.Accounts

/-! ## Rows -/

/-- The mark and its time are set together. -/
def IsDated (u : User) : Prop := u.emailVerified = u.verifiedAt.isSome

/-- What becomes of a user as time goes on. -/
structure Later (u v : User) : Prop where
  userId : v.userId = u.userId
  email : v.email = u.email
  createdAt : v.createdAt = u.createdAt
  emailVerified : u.emailVerified = true → v.emailVerified = true
  verifiedAt : ∀ d, u.verifiedAt = some d → v.verifiedAt = some d

/-- The rows of a user. -/
def ofUser (id : String) (users : List User) : List User := users.filter (·.userId == id)

variable {id : String} {now : Int} {users users' : List User} {u v w : User} {a : Answer}

theorem Later.refl (u : User) : Later u u := ⟨rfl, rfl, rfl, fun h => h, fun _ h => h⟩

theorem Later.trans (first : Later u v) (second : Later v w) : Later u w where
  userId := second.userId.trans first.userId
  email := second.email.trans first.email
  createdAt := second.createdAt.trans first.createdAt
  emailVerified h := second.emailVerified (first.emailVerified h)
  verifiedAt d h := second.verifiedAt d (first.verifiedAt d h)

theorem later_verified (now : Int) (u : User) : Later u (verified now u) where
  userId := rfl
  email := rfl
  createdAt := rfl
  emailVerified _ := rfl
  verifiedAt d h := by simp [verified, h]

theorem isDated_fresh (id email : String) (hash name : Option String) (verified : Bool)
    (now : Int) : IsDated (fresh id email hash name verified now) := by
  unfold IsDated fresh
  cases verified <;> rfl

theorem isDated_verified (now : Int) (u : User) : IsDated (verified now u) := by
  unfold IsDated verified
  cases u.verifiedAt <;> rfl

/-! ## Requests -/

theorem isDated_of_answered {r : Request} (made : Answered now users r users' a)
    (h : ∀ u ∈ users, IsDated u) : ∀ u ∈ users', IsDated u := by
  cases made with
  | create free =>
    intro u hu
    rcases List.mem_append.mp hu with hu | hu
    · exact h u hu
    · rw [List.mem_singleton.mp hu]
      exact isDated_fresh _ _ _ _ _ _
  | get id => exact h
  | getByEmail email => exact h
  | verifyEmail id nodes => exact Rows.forall_change (fun u _ => isDated_verified now u) h
  | setPasswordHash id hash => exact Rows.forall_change (fun _ hu => hu) h
  | setDisplayName id name => exact Rows.forall_change (fun _ hu => hu) h

/-- A change of rows into later ones loses none. -/
theorem exists_later_of_change {p : User → Bool} {f : User → User} (hf : ∀ u, Later u (f u))
    (hu : u ∈ users) : ∃ v ∈ Rows.change p f users, Later u v := by
  refine ⟨if p u then f u else u, Rows.mem_change.mpr ⟨u, hu, rfl⟩, ?_⟩
  split
  · exact hf u
  · exact .refl u

theorem exists_later_of_answered {r : Request} (made : Answered now users r users' a)
    (hu : u ∈ users) : ∃ v ∈ users', Later u v := by
  cases made with
  | create free => exact ⟨u, List.mem_append_left _ hu, .refl u⟩
  | get id => exact ⟨u, hu, .refl u⟩
  | getByEmail email => exact ⟨u, hu, .refl u⟩
  | verifyEmail id nodes => exact exists_later_of_change (later_verified now) hu
  | setPasswordHash id hash =>
    exact exists_later_of_change (fun u => ⟨rfl, rfl, rfl, fun h => h, fun _ h => h⟩) hu
  | setDisplayName id name =>
    exact exists_later_of_change (fun u => ⟨rfl, rfl, rfl, fun h => h, fun _ h => h⟩) hu

/-! ## Events -/

variable {settings : Settings} {t t' : Tables} {e : Event} {h : List Event}

theorem isDated_of_moves (e : Event) (t t' : Tables) (moves : e.Moves settings (some t) (some t'))
    (dated : ∀ u ∈ t.users, IsDated u) : ∀ u ∈ t'.users, IsDated u := by
  rcases users_of_moves moves with ⟨r, a, -, made⟩ | ⟨same, -⟩
  · exact isDated_of_answered made dated
  · rw [same]
    exact dated

/-- While the schema is kept no user is lost. -/
theorem exists_later_of_course {tables : Option Tables} (course : Course settings (some t) h tables)
    (kept : ∀ e ∈ h, e.deed ≠ .dropSchema) :
    ∃ t', tables = some t' ∧ ∀ u ∈ t.users, ∃ v ∈ t'.users, Later u v := by
  induction course with
  | start => exact ⟨t, rfl, fun u hu => ⟨u, hu, .refl u⟩⟩
  | @step h e before after course moves ih =>
    obtain ⟨s, rfl, earlier⟩ := ih fun x hx => kept x (List.mem_append_left _ hx)
    obtain ⟨t', rfl⟩ := Event.exists_of_moves moves (kept e (by simp))
    refine ⟨t', rfl, ?_⟩
    intro u hu
    obtain ⟨v, hv, huv⟩ := earlier u hu
    rcases users_of_moves moves with ⟨r, a, -, made⟩ | ⟨same, -⟩
    · obtain ⟨w, hw, hvw⟩ := exists_later_of_answered made hv
      exact ⟨w, hw, huv.trans hvw⟩
    · exact ⟨v, same ▸ hv, huv⟩

/-! ## What a history makes of a user -/

/-- The row that a create of the user is answered with. -/
def creation? (id : String) (e : Event) : Option User :=
  match e.deed with
  | .call (.accounts (.create id' email hash name verified)) (.ok _) =>
    if id' = id then some (fresh id' email hash name verified e.clock) else none
  | _ => none

/-- When the user was verified; a verification that finds nobody tells nothing. -/
def verification? (id : String) (e : Event) : Option Int :=
  match e.deed with
  | .call (.accounts (.verifyEmail id')) (.ok (.verified (some _) _)) =>
    if id' = id then some e.clock else none
  | _ => none

/-- The row of a user who was created as `first`. -/
structure FollowsHistory (id : String) (h : List Event) (first u : User) : Prop where
  userId : u.userId = first.userId
  email : u.email = first.email
  createdAt : u.createdAt = first.createdAt
  emailVerified : u.emailVerified = u.verifiedAt.isSome
  verifiedAt :
    u.verifiedAt =
      if first.emailVerified then some first.createdAt else earliest (verification? id) h

/-- A user who was never created has no row and was never verified; another has one row. -/
def Tracks (id : String) (h : List Event) (users : List User) : Prop :=
  match earliest (creation? id) h with
  | none => ofUser id users = [] ∧ earliest (verification? id) h = none
  | some first => ∃ u, ofUser id users = [u] ∧ FollowsHistory id h first u

variable {first : User}

theorem Tracks.of_unknown (unknown : earliest (creation? id) h = none)
    (nobody : ofUser id users = [])
    (unseen : earliest (verification? id) h = none) : Tracks id h users := by
  unfold Tracks
  rw [unknown]
  exact ⟨nobody, unseen⟩

theorem Tracks.of_known (known : earliest (creation? id) h = some first)
    (hu : ofUser id users = [u]) (hf : FollowsHistory id h first u) : Tracks id h users := by
  unfold Tracks
  rw [known]
  exact ⟨u, hu, hf⟩

theorem Tracks.cases (tracks : Tracks id h users) :
    (earliest (creation? id) h = none ∧ ofUser id users = [] ∧
      earliest (verification? id) h = none) ∨
    ∃ first u, earliest (creation? id) h = some first ∧ ofUser id users = [u] ∧
      FollowsHistory id h first u := by
  unfold Tracks at tracks
  cases known : earliest (creation? id) h with
  | none =>
    rw [known] at tracks
    exact Or.inl ⟨rfl, tracks⟩
  | some first =>
    rw [known] at tracks
    obtain ⟨u, hu, hf⟩ := tracks
    exact Or.inr ⟨first, u, rfl, hu, hf⟩

/-- A user without what the history is not asked for. -/
def told (u : User) : User := { u with passwordHash := none, displayName := none }

theorem FollowsHistory.of_told (follows : FollowsHistory id h first u) (same : told v = told u) :
    FollowsHistory id h first v where
  userId := (congrArg User.userId same).trans follows.userId
  email := (congrArg User.email same).trans follows.email
  createdAt := (congrArg User.createdAt same).trans follows.createdAt
  emailVerified :=
    (congrArg User.emailVerified same).trans <| follows.emailVerified.trans <|
      congrArg Option.isSome (congrArg User.verifiedAt same).symm
  verifiedAt := (congrArg User.verifiedAt same).trans follows.verifiedAt

/-- An event that neither creates nor verifies the user leaves what is told of the user. -/
theorem Tracks.silent (tracks : Tracks id h users) (hc : creation? id e = none)
    (hv : verification? id e = none)
    (same : (ofUser id users').map told = (ofUser id users).map told) :
    Tracks id (h ++ [e]) users' := by
  have created : earliest (creation? id) (h ++ [e]) = earliest (creation? id) h := by
    rw [earliest_concat, hc, Option.or_none]
  have verified : earliest (verification? id) (h ++ [e]) = earliest (verification? id) h := by
    rw [earliest_concat, hv, Option.or_none]
  rcases tracks.cases with ⟨unknown, nobody, unseen⟩ | ⟨first, u, known, hu, follows⟩
  · rw [nobody, List.map_nil, List.map_eq_nil_iff] at same
    exact .of_unknown (created.trans unknown) same (verified.trans unseen)
  · rw [hu, List.map_singleton, List.map_eq_singleton_iff] at same
    obtain ⟨v, hv, htold⟩ := same
    have follows' := follows.of_told htold
    refine .of_known (created.trans known) hv { follows' with verifiedAt := ?_ }
    rw [verified]
    exact follows'.verifiedAt

/-- A create needs the id to be free, so it is the first that is answered. -/
theorem Tracks.create {email : String} {hash name : Option String} {verified : Bool}
    (tracks : Tracks id h users)
    (free : ∀ u ∈ users, u.userId ≠ id ∧ u.email ≠ normalizeEmail email)
    (hdeed : e.deed = .call (.accounts (.create id email hash name verified)) (.ok a)) :
    Tracks id (h ++ [e]) (users ++ [fresh id email hash name verified e.clock]) := by
  let new := fresh id email hash name verified e.clock
  have creates : creation? id e = some new := by simp [creation?, hdeed, new]
  have verifies : verification? id e = none := by simp [verification?, hdeed]
  have nobody : ofUser id users = [] := by
    unfold ofUser
    rw [List.filter_eq_nil_iff]
    intro u hu hid
    exact (free u hu).1 (eq_of_beq hid)
  have added : ofUser id (users ++ [new]) = [new] := by
    unfold ofUser at nobody ⊢
    rw [List.filter_append, nobody]
    simp [new, fresh]
  rcases tracks.cases with ⟨unknown, -, unseen⟩ | ⟨first, u, -, hu, -⟩
  · have known : earliest (creation? id) (h ++ [e]) = some new := by
      rw [earliest_concat, unknown, creates]
      rfl
    refine .of_known known added ?_
    refine ⟨rfl, rfl, rfl, isDated_fresh _ _ _ _ _ _, ?_⟩
    rw [earliest_concat, unseen, verifies]
    rfl
  · rw [nobody] at hu
    cases hu

/-- The first verification that finds the user dates the mark. -/
theorem Tracks.verify {nodes : Nat} (tracks : Tracks id h users)
    (hdeed : e.deed = .call (.accounts (.verifyEmail id))
      (.ok (.verified ((find? id users).map (verified e.clock)) nodes))) :
    Tracks id (h ++ [e]) (Rows.change (·.userId == id) (verified e.clock) users) := by
  generalize hnow : e.clock = now at hdeed ⊢
  have creates : creation? id e = none := by simp [creation?, hdeed]
  have created : earliest (creation? id) (h ++ [e]) = earliest (creation? id) h := by
    rw [earliest_concat, creates, Option.or_none]
  have changed : ofUser id (Rows.change (·.userId == id) (verified now) users) =
      (ofUser id users).map (verified now) :=
    Rows.filter_key_change User.userId (f := verified now) (fun _ => rfl) id
  have found : find? id users = (ofUser id users).head? := by
    unfold find? ofUser
    rw [List.head?_filter]
  rcases tracks.cases with ⟨unknown, nobody, unseen⟩ | ⟨first, u, known, hu, follows⟩
  · rw [nobody] at found changed
    have verifies : verification? id e = none := by simp [verification?, hdeed, found]
    refine .of_unknown (created.trans unknown) changed ?_
    rw [earliest_concat, unseen, verifies]
    rfl
  · rw [hu] at found changed
    have verifies : verification? id e = some now := by simp [verification?, hdeed, found, hnow]
    refine .of_known (created.trans known) changed ?_
    refine ⟨follows.userId, follows.email, follows.createdAt, isDated_verified now u, ?_⟩
    show u.verifiedAt.or (some now) = _
    rw [follows.verifiedAt, earliest_concat, verifies]
    split <;> rfl

theorem told_ofUser_change {p : User → Bool} {f : User → User} (hf : ∀ u, told (f u) = told u) :
    (ofUser id (Rows.change p f users)).map told = (ofUser id users).map told := by
  have key : ∀ u, ((f u).userId == id) = (u.userId == id) := by
    intro u
    have same : (told (f u)).userId = (told u).userId := congrArg User.userId (hf u)
    exact congrArg (· == id) same
  unfold ofUser
  rw [Rows.filter_change key, Rows.map_change hf]

theorem Tracks.answered {r : Request} (tracks : Tracks id h users)
    (hdeed : e.deed = .call (.accounts r) (.ok a)) (made : Answered e.clock users r users' a) :
    Tracks id (h ++ [e]) users' := by
  cases made with
  | @create id' email hash name verified free =>
    by_cases hid : id' = id
    · subst hid
      exact tracks.create free hdeed
    · refine tracks.silent (by simp [creation?, hdeed, hid]) (by simp [verification?, hdeed]) ?_
      unfold ofUser
      simp [List.filter_append, fresh, hid]
  | get id' => exact tracks.silent (by simp [creation?, hdeed]) (by simp [verification?, hdeed]) rfl
  | getByEmail email =>
    exact tracks.silent (by simp [creation?, hdeed]) (by simp [verification?, hdeed]) rfl
  | verifyEmail id' nodes =>
    by_cases hid : id' = id
    · subst hid
      exact tracks.verify hdeed
    · refine tracks.silent (by simp [creation?, hdeed]) ?_ ?_
      · cases hfind : find? id' users <;> simp [verification?, hdeed, hfind, hid]
      · unfold ofUser
        rw [Rows.filter_key_change_of_ne User.userId (f := verified e.clock) (fun _ => rfl) hid]
  | setPasswordHash id' hash =>
    exact tracks.silent (by simp [creation?, hdeed]) (by simp [verification?, hdeed])
      (told_ofUser_change fun _ => rfl)
  | setDisplayName id' name =>
    exact tracks.silent (by simp [creation?, hdeed]) (by simp [verification?, hdeed])
      (told_ofUser_change fun _ => rfl)

theorem Tracks.step (tracks : Tracks id h t.users) (moves : e.Moves settings (some t) (some t')) :
    Tracks id (h ++ [e]) t'.users := by
  rcases users_of_moves moves with ⟨r, a, hdeed, made⟩ | ⟨same, other⟩
  · exact tracks.answered hdeed made
  · have hc : creation? id e = none := by
      unfold creation?
      split
      · next hdeed => exact absurd hdeed (other _ _)
      · rfl
    have hv : verification? id e = none := by
      unfold verification?
      split
      · next hdeed => exact absurd hdeed (other _ _)
      · rfl
    rw [same]
    exact tracks.silent hc hv rfl

end AccountPortal.Accounts

namespace AccountPortal

open Accounts

/-- After every run, with the schema dropped in it or not, a user is marked as verified just when
there is a date for it. From then on, while the schema is kept, no user is lost, none gets another
id, address or date of creation, and none who is verified loses the mark or its date. And in a run
that keeps the schema throughout, there is one row of each user who was ever created, and no other:
with the id, the address and the time of the first create that was answered, and verified since then
if it was created so, or else since the first verification that found the user. -/
theorem verified_once_and_for_all (settings : Settings) (clock : Int) (steps : List Portal.Step) :
    let p := Portal.fresh settings clock
    let q := (p.run steps).1
    (∀ t, q.tables = some t → ∀ u ∈ t.users, u.emailVerified = u.verifiedAt.isSome) ∧
    (∀ t more, q.tables = some t → .dropSchema ∉ more →
      ∃ t', (q.run more).1.tables = some t' ∧
        ∀ u ∈ t.users, ∃ v, ofUser u.userId t'.users = [v] ∧ Later u v) ∧
    (.dropSchema ∉ steps → ∃ t, q.tables = some t ∧ ∀ id,
      match earliest (creation? id) (p.history steps) with
      | none => ofUser id t.users = []
      | some first =>
        ∃ u, ofUser id t.users = [u] ∧ FollowsHistory id (p.history steps) first u) := by
  intro p q
  have course := p.run_course steps
  refine ⟨?_, ?_, ?_⟩
  · exact course.invariant (P := fun t => ∀ u ∈ t.users, IsDated u) (fun u hu => by cases hu)
      isDated_of_moves
  · intro t more ht kept
    have further := q.run_course more
    rw [ht] at further
    obtain ⟨t', ht', later⟩ := exists_later_of_course further (q.kept_of_not_mem kept)
    refine ⟨t', ht', ?_⟩
    intro u hu
    obtain ⟨v, hv, huv⟩ := later u hu
    have whole : Course p.settings (some .empty) (p.history steps ++ q.history more) (some t') := by
      rw [ht] at course
      rw [p.run_settings steps, ht'] at further
      exact course.append further
    have distinct := (proper_of_course whole t' rfl).ids
    refine ⟨v, ?_, huv⟩
    rw [← huv.userId]
    exact Rows.filter_key_eq_singleton User.userId distinct hv
  · intro kept
    have hnew : ∀ id, Tracks id [] Tables.empty.users := fun id => ⟨rfl, rfl⟩
    obtain ⟨t, ht, tracks⟩ := course.tracked (P := fun h t => ∀ id, Tracks id h t.users) hnew
      (fun h e t u tracks moves id => (tracks id).step moves) (p.kept_of_not_mem kept)
    refine ⟨t, ht, ?_⟩
    intro id
    have follows := tracks id
    unfold Tracks at follows
    split
    · next unknown =>
      rw [unknown] at follows
      exact follows.1
    · next first known =>
      rw [known] at follows
      exact follows

/-- A user who is verified at time zero, on a clock that went back, and again after that. -/
theorem user_verified_at_time_zero :
    let create : Call := .accounts (.create "u" "a@x.c" none none false)
    let verify : Call := .accounts (.verifyEmail "u")
    let steps : List Portal.Step := [.call create, .advance (-5), .call verify]
    let more : List Portal.Step := [.advance 7, .call verify]
    let p := Portal.fresh .standard 5
    let q := (p.run steps).1
    let row : User := ⟨"u", "a@x.c", true, none, none, 5, some 0⟩
    let t : Tables := { Tables.empty with users := [row] }
    (q.tables = some t ∧ row ∈ t.users ∧ row.emailVerified = row.verifiedAt.isSome) ∧
    (.dropSchema ∉ more ∧ ∃ t' v, (q.run more).1.tables = some t' ∧
      ofUser "u" t'.users = [v] ∧ Later row v) ∧
    (.dropSchema ∉ steps ∧ ∃ first,
      earliest (creation? "u") (p.history steps) = some first ∧ first.emailVerified = false ∧
        earliest (verification? "u") (p.history steps) = some 0 ∧
        FollowsHistory "u" (p.history steps) first row) := by
  intro create verify steps more p q row t
  have ht : q.tables = some t := rfl
  have hrow : row ∈ t.users := List.mem_singleton.mpr rfl
  have keptMore : .dropSchema ∉ more := by simp [more]
  have kept : .dropSchema ∉ steps := by simp [steps]
  let first : User := fresh "u" "a@x.c" none none false 5
  have known : earliest (creation? "u") (p.history steps) = some first := by
    simp only [steps, p, create, verify, first]
    rfl
  have verification : earliest (verification? "u") (p.history steps) = some 0 := by
    simp only [steps, p, create, verify]
    rfl
  obtain ⟨dated, later, law⟩ := verified_once_and_for_all .standard 5 steps
  refine ⟨⟨ht, hrow, dated t ht row hrow⟩, ⟨keptMore, ?_⟩, kept, first, known, rfl, verification,
    ?_⟩
  · obtain ⟨t', ht', after⟩ := later t more ht keptMore
    obtain ⟨v, hv, hlater⟩ := after row hrow
    exact ⟨t', v, ht', hv, hlater⟩
  · obtain ⟨t₀, ht₀, rows⟩ := law kept
    have same : t₀ = t := Option.some.inj (ht₀.symm.trans ht)
    have follows := rows "u"
    rw [show earliest (creation? "u") ((Portal.fresh .standard 5).history steps) = some first
      from known, same] at follows
    obtain ⟨u, hu, hf⟩ := follows
    have alone : ofUser "u" t.users = [row] := rfl
    rw [alone, List.cons.injEq] at hu
    rw [hu.1]
    exact hf

end AccountPortal

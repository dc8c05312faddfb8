import AccountPortal.Proofs.History
import AccountPortal.Proofs.Rows
import AccountPortal.Proofs.Since

/-!
# What a history makes of a link

While the schema is kept, a subject of a provider belongs to the user of its latest link, whose
address the row has too; the date of the row is that of the first link, and links of other subjects
or providers leave the row as it is:

    latest (linking? provider subject) h = none        → no row of the subject
    latest (linking? provider subject) h = some last   → one row, which `FollowsHistory … h last`
                                                                              (chronicle_of_run)
-/

namespace AccountPortal.IdentityLinks

/-! ## What an event tells of a subject -/

/-- The row that a link of the subject brings. -/
def linking? (provider : Provider) (subject : String) (e : Event) : Option IdentityLink :=
  match e.deed with
  | .call (.identityLinks (.link given linked user email)) (.ok _) =>
    if Choice.ofValue? given = some provider ∧ linked = subject then
      some ⟨provider, subject, user, email, e.clock⟩
    else none
  | _ => none

/-- The two columns that rows are linked under. -/
def subjectKey (r : IdentityLink) : Provider × String := (r.provider, r.subject)

/-- The row of a subject that was linked as `last` in the end, column by column. -/
structure FollowsHistory (provider : Provider) (subject : String) (h : List Event)
    (last r : IdentityLink) : Prop where
  key : subjectKey r = (provider, subject)
  userId : r.userId = last.userId
  emailSnapshot : r.emailSnapshot = last.emailSnapshot
  createdAt :
    earliest (fun e => (linking? provider subject e).map fun _ => e.clock) h = some r.createdAt

/-- What is there of a subject: nothing before it is linked, and then the row that the history
makes of its links. -/
def Follows (provider : Provider) (subject : String) (h : List Event)
    (found : Option IdentityLink) : Prop :=
  match latest (linking? provider subject) h with
  | none => found = none
  | some last => ∃ r, found = some r ∧ FollowsHistory provider subject h last r

/-- Who is found for a subject by the history; nobody for a provider that is not known. -/
def ownerBy (h : List Event) (given : Value) (subject : String) : Option String :=
  (Choice.ofValue? given).bind fun provider =>
    (latest (linking? provider subject) h).map (·.userId)

/-- The rows of a subject. -/
def ofSubject (provider : Provider) (subject : String) (rows : List IdentityLink) :
    List IdentityLink :=
  rows.filter (isOf provider subject)

/-! ## Rows -/

/-- What a link makes of the row of its subject. -/
def relinked (new r : IdentityLink) : IdentityLink :=
  { r with userId := new.userId, emailSnapshot := new.emailSnapshot }

section rows

variable {provider : Provider} {subject : String} {rows : List IdentityLink} {new : IdentityLink}

theorem find?_eq_head? (provider : Provider) (subject : String) (rows : List IdentityLink) :
    find? provider subject rows = (ofSubject provider subject rows).head?.map (·.userId) := by
  unfold find? ofSubject
  rw [List.head?_filter]

theorem ofSubject_link (new : IdentityLink) (rows : List IdentityLink) :
    ofSubject new.provider new.subject (link new rows).1 =
      if ofSubject new.provider new.subject rows = [] then [new]
      else (ofSubject new.provider new.subject rows).map (relinked new) :=
  Rows.filter_key_upsert (f := relinked new) subjectKey (fun _ => rfl) rfl

theorem ofSubject_link_of_ne (h : subjectKey new ≠ (provider, subject)) :
    ofSubject provider subject (link new rows).1 = ofSubject provider subject rows :=
  Rows.filter_key_upsert_of_ne (f := relinked new) subjectKey (fun _ => rfl) rfl h

end rows

/-! ## One more event -/

variable {provider : Provider} {subject : String} {h : List Event} {e : Event}
  {last new r : IdentityLink} {found : Option IdentityLink}

theorem followsHistory_first (hlink : linking? provider subject e = some new)
    (unlinked : latest (linking? provider subject) h = none)
    (key : subjectKey new = (provider, subject)) (dated : new.createdAt = e.clock) :
    FollowsHistory provider subject (h ++ [e]) new new where
  key := key
  userId := rfl
  emailSnapshot := rfl
  createdAt := by
    have unbegun : earliest (linking? provider subject) h = none := by
      rw [earliest_eq_none_iff, ← latest_eq_none_iff, unlinked]
    rw [earliest_concat, earliest_map_of_none (fun e _ => e.clock) unbegun, hlink, dated]
    rfl

theorem FollowsHistory.concat (hf : FollowsHistory provider subject h last r) :
    FollowsHistory provider subject (h ++ [e]) new (relinked new r) where
  key := hf.key
  userId := rfl
  emailSnapshot := rfl
  createdAt := by
    rw [earliest_concat, hf.createdAt]
    rfl

/-- A link changes the row that is there, or is the row. -/
theorem Follows.concat_link (follows : Follows provider subject h found)
    (hlink : linking? provider subject e = some new)
    (key : subjectKey new = (provider, subject)) (dated : new.createdAt = e.clock) :
    Follows provider subject (h ++ [e]) ((found.map (relinked new)).or (some new)) := by
  unfold Follows at follows ⊢
  rw [latest_concat, hlink]
  cases hlast : latest (linking? provider subject) h with
  | none =>
    rw [hlast] at follows
    subst follows
    exact ⟨new, rfl, followsHistory_first hlink hlast key dated⟩
  | some last =>
    rw [hlast] at follows
    obtain ⟨r, rfl, hf⟩ := follows
    exact ⟨relinked new r, rfl, hf.concat⟩

theorem Follows.concat_other (follows : Follows provider subject h found)
    (hlink : linking? provider subject e = none) : Follows provider subject (h ++ [e]) found := by
  unfold Follows at follows ⊢
  rw [latest_concat, hlink, Option.none_or]
  cases hlast : latest (linking? provider subject) h with
  | none =>
    rw [hlast] at follows
    exact follows
  | some last =>
    rw [hlast] at follows
    obtain ⟨r, rfl, hf⟩ := follows
    refine ⟨r, rfl, { hf with createdAt := ?_ }⟩
    rw [earliest_concat, hf.createdAt]
    rfl

/-- Whose the row is. -/
theorem Follows.map_userId (follows : Follows provider subject h found) :
    found.map (·.userId) = (latest (linking? provider subject) h).map (·.userId) := by
  unfold Follows at follows
  cases hlast : latest (linking? provider subject) h with
  | none =>
    rw [hlast] at follows
    rw [follows]
  | some last =>
    rw [hlast] at follows
    obtain ⟨r, rfl, hf⟩ := follows
    exact congrArg some hf.userId

/-! ## Rows that follow -/

/-- The rows of a subject are what follows from the history: none, or one. -/
def Tracks (provider : Provider) (subject : String) (h : List Event) (rows : List IdentityLink) :
    Prop :=
  ∃ found : Option IdentityLink, ofSubject provider subject rows = found.toList ∧
    Follows provider subject h found

variable {rows rows' : List IdentityLink}

theorem Tracks.silent (tracks : Tracks provider subject h rows)
    (hlink : linking? provider subject e = none)
    (same : ofSubject provider subject rows' = ofSubject provider subject rows) :
    Tracks provider subject (h ++ [e]) rows' := by
  obtain ⟨found, hrows, follows⟩ := tracks
  exact ⟨found, same.trans hrows, follows.concat_other hlink⟩

theorem Tracks.link {given : Value} {known : Provider} {linked user : String}
    {email : Option String} {a : Answer} (tracks : Tracks provider subject h rows)
    (hknown : Choice.ofValue? given = some known)
    (hdeed : e.deed = .call (.identityLinks (.link given linked user email)) (.ok a)) :
    Tracks provider subject (h ++ [e])
      (IdentityLinks.link ⟨known, linked, user, email, e.clock⟩ rows).1 := by
  by_cases same : known = provider ∧ linked = subject
  · obtain ⟨rfl, rfl⟩ := same
    have hlink : linking? known linked e = some ⟨known, linked, user, email, e.clock⟩ := by
      simp [linking?, hdeed, hknown]
    have hrows := ofSubject_link ⟨known, linked, user, email, e.clock⟩ rows
    obtain ⟨found, hfound, follows⟩ := tracks
    have next := follows.concat_link hlink rfl rfl
    cases found with
    | none => exact ⟨some _, hrows.trans (if_pos hfound), next⟩
    | some r =>
      have there : ofSubject known linked rows ≠ [] := by simp [hfound]
      exact ⟨some _, hrows.trans ((if_neg there).trans (congrArg (List.map _) hfound)), next⟩
  · refine tracks.silent ?_ (ofSubject_link_of_ne ?_)
    · simp [linking?, hdeed, hknown, same]
    · simpa [subjectKey] using same

/-! ## Courses -/

variable {settings : Settings} {t u : Tables}

theorem identityLinks_of_effect {ctx : Context} {c : Call} {a : Answer}
    (h : c.effect ctx t = .ok (u, a)) (other : ∀ r, c ≠ .identityLinks r) :
    u.identityLinks = t.identityLinks := by
  cases c with
  | identityLinks r => exact absurd rfl (other r)
  | purgeExpired =>
    obtain ⟨-, rfl, -⟩ := Plan.effect_update_eq_ok_iff.mp h
    rfl
  | _ => exact Plan.keep_of_effectOf_on h (fun _ => rfl) Tables.identityLinks fun _ _ => rfl

theorem Tracks.step (tracks : Tracks provider subject h t.identityLinks)
    (moves : e.Moves settings (some t) (some u)) :
    Tracks provider subject (h ++ [e]) u.identityLinks := by
  rcases Event.asked_or_kept_of_moves moves identityLinks_of_effect with
    ⟨r, a, hdeed, heffect⟩ | ⟨same, other⟩
  · obtain ⟨rows, hr, rfl⟩ := Plan.exists_of_effectOf_on heffect fun _ => rfl
    cases r with
    | link given linked user email =>
      cases hknown : (Choice.coerce "OAuth provider" given : Except Fault Provider) with
      | error f =>
        rw [plan, hknown] at hr
        cases hr
      | ok known =>
        rw [plan, hknown] at hr
        obtain ⟨-, rfl, -⟩ := Plan.effect_update_eq_ok_iff.mp hr
        exact tracks.link (Choice.coerce_eq_ok_iff.mp hknown) hdeed
    | find given subject =>
      have same : rows = t.identityLinks := by
        simp only [plan] at hr
        split at hr <;> cases hr <;> rfl
      exact tracks.silent (by simp [linking?, hdeed]) (by rw [same])
  · refine tracks.silent ?_ (by rw [same])
    unfold linking?
    split
    · next hdeed => exact absurd hdeed (other _ _)
    · rfl

/-- While the schema is kept the rows of a subject follow the history. -/
theorem tracks_of_course {tables : Option Tables} (course : Course settings (some .empty) h tables)
    (kept : ∀ e ∈ h, e.deed ≠ .dropSchema) :
    ∃ t, tables = some t ∧ ∀ provider subject, Tracks provider subject h t.identityLinks :=
  course.tracked (P := fun h t => ∀ provider subject, Tracks provider subject h t.identityLinks)
    (fun _ _ => ⟨none, rfl, rfl⟩)
    (fun _ _ _ _ tracks moves provider subject => (tracks provider subject).step moves) kept

/-! ## Calls -/

/-- A look-up is answered with who follows from the history. -/
theorem effect_find (ctx : Context) (given : Value) (subject : String) {t : Tables}
    (tracks : ∀ provider subject, Tracks provider subject h t.identityLinks) :
    (Call.identityLinks (.find given subject)).effect ctx t =
      .ok (t, .owner (ownerBy h given subject)) := by
  unfold Call.effect
  simp only [Call.plan, plan, ownerBy]
  cases (Choice.ofValue? given : Option Provider) with
  | none => rfl
  | some provider =>
    obtain ⟨found, hrows, follows⟩ := tracks provider subject
    have answered : find? provider subject t.identityLinks =
        (latest (linking? provider subject) h).map (·.userId) := by
      rw [find?_eq_head?, hrows, ← follows.map_userId]
      cases found <;> rfl
    exact congrArg (fun owner => Except.ok (t, Answer.owner owner)) answered

/-- A link of another subject or provider leaves the rows of a subject. -/
theorem ofSubject_of_link {p : Portal} {conn : Connection} {given : Value} {linked user : String}
    {email : Option String} (there : p.tables = some t)
    (other : ¬ (Choice.ofValue? given = some provider ∧ linked = subject)) :
    ∃ u, (p.attempt conn (.identityLinks (.link given linked user email))).1 = some u ∧
      ofSubject provider subject u.identityLinks = ofSubject provider subject t.identityLinks := by
  cases heffect : (Call.identityLinks (.link given linked user email)).effect p.context t with
  | error f =>
    rw [Portal.attempt_eq_of_effect_error there conn heffect]
    exact ⟨t, rfl, rfl⟩
  | ok r =>
    obtain ⟨u, a⟩ := r
    rw [Portal.attempt_eq_of_effect_ok there conn heffect]
    refine ⟨u, rfl, ?_⟩
    obtain ⟨rows, hr, rfl⟩ := Plan.exists_of_effectOf_on heffect fun _ => rfl
    cases hknown : (Choice.coerce "OAuth provider" given : Except Fault Provider) with
    | error f =>
      rw [plan, hknown] at hr
      cases hr
    | ok known =>
      rw [plan, hknown] at hr
      obtain ⟨-, rfl, -⟩ := Plan.effect_update_eq_ok_iff.mp hr
      refine ofSubject_link_of_ne fun key => other ?_
      obtain ⟨rfl, rfl⟩ := Prod.mk.inj key
      exact ⟨Choice.coerce_eq_ok_iff.mp hknown, rfl⟩

/-! ## Runs -/

/-- What the history of a run makes of a provider's subject. -/
structure Chronicle (p : Portal) (steps : List Portal.Step) (provider : Provider)
    (subject : String) : Prop where
  /-- There is the one row that follows from the history, or none. -/
  stands : ∃ t found, (p.run steps).1.tables = some t ∧
    ofSubject provider subject t.identityLinks = found.toList ∧
    Follows provider subject (p.history steps) found
  /-- A look-up is answered with the user of the latest link. -/
  owner : ∀ given, ((p.run steps).1.call (.identityLinks (.find given subject))).2.outcome =
    .ok (.owner (ownerBy (p.history steps) given subject))
  /-- So was a look-up within the run, by what had happened before it. -/
  owned : ∀ passed now given out rest,
    p.history steps =
      passed ++ ⟨now, .call (.identityLinks (.find given subject)) out⟩ :: rest →
    out = .ok (.owner (ownerBy passed given subject))
  /-- A link of another provider or subject does not concern it. -/
  others : ∀ (s : Portal) t conn given linked user email, s.tables = some t →
    ¬ (Choice.ofValue? given = some provider ∧ linked = subject) →
    ∃ u, (s.attempt conn (.identityLinks (.link given linked user email))).1 = some u ∧
      ofSubject provider subject u.identityLinks = ofSubject provider subject t.identityLinks

/-- The row of a subject that was linked. -/
theorem Chronicle.row {p : Portal} {steps : List Portal.Step} {last : IdentityLink}
    (chronicle : Chronicle p steps provider subject)
    (hlast : latest (linking? provider subject) (p.history steps) = some last) :
    ∃ t r, (p.run steps).1.tables = some t ∧ ofSubject provider subject t.identityLinks = [r] ∧
      FollowsHistory provider subject (p.history steps) last r := by
  obtain ⟨t, found, there, hrows, follows⟩ := chronicle.stands
  rw [Follows, hlast] at follows
  obtain ⟨r, rfl, hr⟩ := follows
  exact ⟨t, r, there, hrows, hr⟩

theorem chronicle_of_run (settings : Settings) (clock : Int) (steps : List Portal.Step)
    (kept : .dropSchema ∉ steps) (provider : Provider) (subject : String) :
    Chronicle (.fresh settings clock) steps provider subject := by
  let p := Portal.fresh settings clock
  have course : Course settings (some .empty) (p.history steps) (p.run steps).1.tables :=
    p.run_course steps
  have keeps := p.kept_of_not_mem kept
  obtain ⟨t, there, tracks⟩ := tracks_of_course course keeps
  refine { stands := ?_, owner := ?_, owned := ?_, others := ?_ }
  · obtain ⟨found, hrows, follows⟩ := tracks provider subject
    exact ⟨t, found, there, hrows, follows⟩
  · exact fun given => Portal.outcome_of_effect_ok there (effect_find _ given subject tracks)
  · intro passed now given out rest heq
    obtain ⟨before, after, first, keeps, moves⟩ := course.kept_before keeps heq
    obtain ⟨t, rfl, tracks⟩ := tracks_of_course first keeps
    exact (Event.eq_of_moves moves (effect_find _ given subject tracks)).2
  · exact fun s t conn given linked user email there other => ofSubject_of_link there other

end AccountPortal.IdentityLinks

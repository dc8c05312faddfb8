import AccountPortal.Proofs.Holding
import AccountPortal.Proofs.Session.Change

/-!
# Valid sessions

The sessions that are held are those that the history left open (`holding`), whatever became of the
clock. So a look-up by the hash of a token finds the session that was opened with it, and that since
then neither a logout, a purge after its expiry nor the end of the schema closed, while its expiry
lies ahead:

    find hash answers s ↔ s.tokenHash = hash ∧ now < s.expiresAt ∧
      Since (Opens settings s) (Closes s) h                                   (found_iff_open_since)

What logging out closes is not found again before it is opened again.
-/

namespace AccountPortal.Sessions

/-! ## What a history leaves -/

def holding (settings : Settings) : Holding settings Session where
  held := Tables.sessions
  starts := Opens settings
  ends := Closes
  Proper := Distinct
  proper_nil := distinct_nil
  held_empty := rfl
  proper_of_moves := distinct_of_moves
  mem_of_moves moves _ := mem_of_moves moves
  ends_dropSchema s e h := by
    unfold Closes
    rw [h]
    trivial
  call_of_starts := by
    rintro s e ⟨given, a, hdeed, -⟩
    exact ⟨_, a, hdeed, by simp⟩

/-- A session that is to be had for the hash of its token. -/
def Valid (settings : Settings) (hash : String) (now : Int) (h : List Event) (s : Session) : Prop :=
  s.tokenHash = hash ∧ now < s.expiresAt ∧ Since (Opens settings s) (Closes s) h

variable {settings : Settings} {h : List Event} {hash : String} {now : Int} {t : Tables}
  {rows : List Session} {s : Session}

theorem Distinct.find?_eq_some_iff (distinct : Distinct rows) :
    find? hash now rows = some s ↔ s ∈ rows ∧ s.tokenHash = hash ∧ now < s.expiresAt := by
  have live : ∀ r : Session, (r.tokenHash == hash && r.isLive now) = true ↔
      r.tokenHash = hash ∧ now < r.expiresAt := by simp [Session.isLive]
  unfold find?
  rw [Rows.find?_eq_some_iff_of_unique, live]
  intro r hr s hs hr' hs'
  have same : r.tokenHash = s.tokenHash := ((live r).mp hr').1.trans ((live s).mp hs').1.symm
  exact List.inj_on_of_nodup_map distinct.hashes hr hs same

theorem Distinct.find?_own_hash (distinct : Distinct rows) (hs : s ∈ rows) :
    find? s.tokenHash now rows = if now < s.expiresAt then some s else none := by
  have found : find? s.tokenHash now rows = if s.isLive now then some s else none :=
    Rows.find?_own_key distinct.hashes hs
  simpa only [Session.isLive, decide_eq_true_eq] using found

theorem find?_iff_valid (course : Course settings (some .empty) h (some t)) :
    find? hash now t.sessions = some s ↔ Valid settings hash now h s := by
  have distinct : Distinct t.sessions := (holding settings).proper_heldIn course
  have held : s ∈ t.sessions ↔ _ := (holding settings).mem_heldIn_iff course s
  rw [distinct.find?_eq_some_iff, held]
  constructor
  · rintro ⟨since, hhash, hlive⟩
    exact ⟨hhash, hlive, since⟩
  · rintro ⟨hhash, hlive, since⟩
    exact ⟨since, hhash, hlive⟩

/-- The look-ups after a user is logged out are those before it, less the user's sessions. -/
theorem Distinct.find?_remove (distinct : Distinct rows) (user : String) :
    find? hash now (Rows.remove (·.userId == user) rows) =
      (find? hash now rows).filter (·.userId != user) := by
  ext s
  rw [Option.filter_eq_some_iff, distinct.find?_eq_some_iff, distinct.remove.find?_eq_some_iff,
    Rows.mem_remove]
  simp only [bne_iff_ne, beq_eq_false_iff_ne]
  constructor
  · rintro ⟨⟨hs, hother⟩, hlive⟩
    exact ⟨⟨hs, hlive⟩, hother⟩
  · rintro ⟨⟨hs, hlive⟩, hother⟩
    exact ⟨⟨hs, hother⟩, hlive⟩

/-! ## Calls -/

theorem effect_sessions (ctx : Context) (r : Request) (t : Tables) :
    (Call.sessions r).effect ctx t =
      (Plan.effectOf (plan ctx r) t.sessions).map
        fun (rows, a) => ({ t with sessions := rows }, a) :=
  Plan.effectOf_on _ _ _ t fun _ => rfl

theorem outcome_find {p : Portal} (h : p.tables = some t) (fits : fitsWord p.clock = true)
    (hash : String) :
    (p.call (.sessions (.find hash))).2.outcome =
      .ok (.record ((find? hash p.clock t.sessions).map Session.record)) := by
  have effect : (Call.sessions (.find hash)).effect p.context t =
      .ok (t, .record ((find? hash p.clock t.sessions).map Session.record)) := by
    rw [effect_sessions, plan, Plan.effectOf_ok]
    simp only [Plan.effect, Portal.context, List.all_cons, fits, List.all_nil, Bool.and_true,
      if_pos]
    rfl
  exact Portal.outcome_of_effect_ok h effect

/-- A look-up within a course is answered by what happened before it. -/
theorem answer_of_find {passed : List Event} {before after : Option Tables} {a : Answer}
    (course : Course settings (some .empty) passed before)
    (moves : Event.Moves settings ⟨now, .call (.sessions (.find hash)) (.ok a)⟩ before after) :
    ∃ found : Option Session, a = .record (found.map Session.record) ∧
      ∀ s, found = some s ↔ Valid settings hash now passed s := by
  cases before with
  | none =>
    obtain ⟨provider, subject, hfind⟩ := Call.eq_find_of_answered (Event.moves_none moves).2
    cases hfind
  | some t =>
    obtain ⟨u, -, heffect⟩ := Event.moves_ok moves
    have made := answered_of_call heffect
    generalize u.sessions = rows at made
    cases made
    exact ⟨find? hash now t.sessions, rfl, fun s => find?_iff_valid course⟩

end AccountPortal.Sessions

namespace AccountPortal

open Sessions

/-- The law of the sessions, for every run from a new portal. A look-up after the run, with the
clock in range and the schema there, finds the session that is valid by the history, and nothing
when there is none; so does every look-up within the run. Between a logout of the token or of the
user and a look-up that finds the session again it is created again. Logging out a user takes the
user's sessions from every look-up at every time, and no others. -/
theorem found_iff_open_since (settings : Settings) (clock : Int) (steps : List Portal.Step)
    (hash : String) :
    let p := Portal.fresh settings clock
    let q := (p.run steps).1
    (q.tables ≠ none → fitsWord q.clock = true →
      ∃ found : Option Session,
        (q.call (.sessions (.find hash))).2.outcome = .ok (.record (found.map Session.record)) ∧
        ∀ s, found = some s ↔ Valid settings hash q.clock (p.history steps) s) ∧
    (∀ passed now a rest,
      p.history steps = passed ++ ⟨now, .call (.sessions (.find hash)) (.ok a)⟩ :: rest →
        ∃ found : Option Session, a = .record (found.map Session.record) ∧
          ∀ s, found = some s ↔ Valid settings hash now passed s) ∧
    (∀ passed e mid now id user expiry rest,
      p.history steps = passed ++ e :: (mid ++
        ⟨now, .call (.sessions (.find hash))
          (.ok (.record (some (.session id user expiry))))⟩ :: rest) →
      (∃ out, e.deed = .call (.sessions (.logOut hash)) out ∨
        e.deed = .call (.sessions (.logOutUser user)) out) →
      ∃ x ∈ mid, ∃ given a, x.deed = .call (.sessions (.create id user hash given)) (.ok a)) ∧
    (q.tables ≠ none → ∀ user,
      let q' := (q.call (.sessions (.logOutUser user))).1
      (∃ n, (q.call (.sessions (.logOutUser user))).2.outcome = .ok (.count n)) ∧
      ∀ now, fitsWord now = true → ∃ found : Option Session,
        ({ q with clock := now }.call (.sessions (.find hash))).2.outcome =
          .ok (.record (found.map Session.record)) ∧
        ({ q' with clock := now }.call (.sessions (.find hash))).2.outcome =
          .ok (.record ((found.filter (·.userId != user)).map Session.record))) := by
  intro p q
  have course : Course settings (some .empty) (p.history steps) q.tables := p.run_course steps
  refine ⟨?_, ?_, ?_, ?_⟩
  · intro present fits
    obtain ⟨t, ht⟩ := Option.ne_none_iff_exists'.mp present
    rw [ht] at course
    exact ⟨find? hash q.clock t.sessions, outcome_find ht fits hash,
      fun s => find?_iff_valid course⟩
  · intro passed now a rest heq
    obtain ⟨before, after, first, moves, -⟩ := course.middle heq
    exact answer_of_find first moves
  · intro passed e mid now id user expiry rest heq logout
    have split : p.history steps = (passed ++ e :: mid) ++
        ⟨now, .call (.sessions (.find hash))
          (.ok (.record (some (.session id user expiry))))⟩ :: rest := by
      rw [heq]
      simp
    obtain ⟨before, after, first, moves, -⟩ := course.middle split
    obtain ⟨found, hanswer, hvalid⟩ := answer_of_find first moves
    obtain ⟨s, hs, hrecord⟩ : ∃ s, found = some s ∧ s.record = .session id user expiry := by
      cases found with
      | none => cases hanswer
      | some s =>
        refine ⟨s, rfl, ?_⟩
        cases hanswer
        rfl
    cases hrecord
    obtain ⟨rfl, -, since⟩ := (hvalid s).mp hs
    obtain ⟨out, hlogout⟩ := logout
    have silent : ¬ Opens settings s e := by
      rintro ⟨given, a, hdeed, -⟩
      rcases hlogout with hlogout | hlogout
      · cases hdeed.symm.trans hlogout
      · cases hdeed.symm.trans hlogout
    have closes : Closes s e := by
      unfold Closes
      rcases hlogout with hlogout | hlogout
      · rw [hlogout]
      · rw [hlogout]
    obtain ⟨x, hx, given, a, hdeed, -⟩ := since.start_after silent closes
    exact ⟨x, hx, given, a, hdeed⟩
  · intro present user q'
    obtain ⟨t, ht⟩ := Option.ne_none_iff_exists'.mp present
    rw [ht] at course
    have distinct : Distinct t.sessions := (holding settings).proper_heldIn course
    have effect : (Call.sessions (.logOutUser user)).effect q.context t =
        .ok ({ t with sessions := Rows.remove (·.userId == user) t.sessions },
          .count (t.sessions.countP (·.userId == user))) := rfl
    have ht' := Portal.tables_of_effect_ok ht effect
    refine ⟨⟨_, Portal.outcome_of_effect_ok ht effect⟩, ?_⟩
    intro now fits
    refine ⟨find? hash now t.sessions, outcome_find (p := { q with clock := now }) ht fits hash, ?_⟩
    rw [outcome_find (p := { q' with clock := now }) ht' fits hash, distinct.find?_remove]

/-- A session that is logged out, and then created again under the same keys. -/
theorem session_found_until_logout :
    let create : Call := .sessions (.create "s" "u" "h" (some 100))
    let find : Call := .sessions (.find "h")
    let logOut : Call := .sessions (.logOut "h")
    let granted : Except Fault Answer := .ok (.record (some (.session "s" "u" 100)))
    let created : Event := ⟨0, .call create granted⟩
    let closed : Event := ⟨0, .call logOut (.ok (.flag true))⟩
    let p := Portal.fresh .standard 0
    let q := (p.run [.call create, .call logOut, .call create, .call find]).1
    let q' := (q.call (.sessions (.logOutUser "u"))).1
    (q.tables ≠ none ∧ fitsWord q.clock = true ∧ (q.call find).2.outcome = granted ∧
      ∃ s : Session, s.record = .session "s" "u" 100 ∧
        Valid .standard "h" 0 [created, closed, created, ⟨0, .call find granted⟩] s) ∧
    (∃ s : Session, s.record = .session "s" "u" 100 ∧
      Valid .standard "h" 0 [created, closed, created] s) ∧
    (∃ x ∈ [created], ∃ given a,
      x.deed = .call (.sessions (.create "s" "u" "h" given)) (.ok a)) ∧
    fitsWord 99 = true ∧ ({ q' with clock := 99 }.call find).2.outcome = .ok (.record none) := by
  intro create find logOut granted created closed p q q'
  have happened : p.history [.call create, .call logOut, .call create, .call find] =
      [created] ++ closed :: ([created] ++ ⟨0, .call find granted⟩ :: []) := by
    simp only [create, find, logOut, granted, created, closed, p]
    rfl
  have present : q.tables ≠ none := by
    simp only [create, find, logOut, p, q]
    exact Option.some_ne_none _
  have finds : (q.call find).2.outcome = granted := rfl
  obtain ⟨later, within, between, out⟩ := found_iff_open_since .standard 0
    [.call create, .call logOut, .call create, .call find] "h"
  -- a look-up that is answered so found a row with this record
  have row : ∀ {found : Option Session} {h : List Event},
      Answer.record (some (.session "s" "u" 100)) = .record (found.map Session.record) →
      (∀ s, found = some s ↔ Valid .standard "h" 0 h s) →
      ∃ s : Session, s.record = .session "s" "u" 100 ∧ Valid .standard "h" 0 h s := by
    intro found h heq hvalid
    cases found with
    | none => cases heq
    | some s => exact ⟨s, by injections; simp_all, (hvalid s).mp rfl⟩
  obtain ⟨found, hfound, hvalid⟩ := later present rfl
  obtain ⟨before, hbefore, hvalid'⟩ := within [created, closed, created] 0 _ [] happened
  obtain ⟨-, always⟩ := out present "u"
  obtain ⟨left, hleft, hgone⟩ := always 99 rfl
  refine ⟨⟨present, rfl, finds, ?_⟩, row hbefore hvalid', ?_, rfl, ?_⟩
  · have hsame := finds.symm.trans hfound
    have known := row (Except.ok.inj hsame) hvalid
    rw [happened] at known
    exact known
  · exact between [created] closed [created] 0 "s" "u" 100 [] happened ⟨_, Or.inl rfl⟩
  · have shown : Except.ok (.record (some (.session "s" "u" 100))) =
        (Except.ok (.record (left.map Session.record)) : Except Fault Answer) := hleft
    rw [hgone]
    cases left with
    | none => rfl
    | some s =>
      have user : s.userId = "u" := by
        cases s
        cases shown
        rfl
      simp [Option.filter, user]

end AccountPortal

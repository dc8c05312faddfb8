import AccountPortal.Proofs.Enrollment.Change
import AccountPortal.Proofs.Since

/-!
# What a history makes of a node

While the schema is kept, the history of a run determines the row of every node, each column by a
rule of its own: the last registration gives the kind, the owner and the token, the first one the
date; an approval lasts through later registrations; a verification lasts until the next
registration, and counts for the owner of that time; the last check and the last write of any kind
give the two times.

    latest (registration? n) h = none       → no row of `n`
    latest (registration? n) h = some last  → one row of `n`, which `FollowsHistory n h last`
                                                                    (row_follows_history)
-/

namespace AccountPortal.Enrollments

/-! ## What an event tells of a node -/

def registration? (n : String) (e : Event) : Option Registration :=
  match e.change? with
  | some (.enroll id r) => if id = n then some r else none
  | _ => none

def approval? (n : String) (e : Event) : Option Bool :=
  match e.change? with
  | some (.approve id value) => if id = n then some value else none
  | _ => none

/-- When the node was checked. -/
def check? (n : String) (e : Event) : Option Int :=
  match e.change? with
  | some (.touch id _) => if id = n then some e.clock else none
  | _ => none

def verifies (owner : String) (e : Event) : Bool :=
  match e.change? with
  | some (.verifyOwner o) => o == owner
  | _ => false

/-- When a node of this owner was written, for whatever reason. -/
def write? (n owner : String) (e : Event) : Option Int :=
  match e.change? with
  | some (.enroll id _) | some (.approve id _) | some (.touch id _) =>
    if id = n then some e.clock else none
  | some (.verifyOwner o) => if o = owner then some e.clock else none
  | none => none

/-- The row of a node that registered with `last` in the end, column by column. -/
structure FollowsHistory (n : String) (h : List Event) (last : Registration) (r : Enrollment) :
    Prop where
  nodeKind : r.nodeKind = last.kind
  ownerUserId : r.ownerUserId = last.ownerUserId
  ownerEmail : r.ownerEmail = last.ownerEmail
  registrationTokenHash : r.registrationTokenHash = last.tokenHash
  createdAt : earliest (fun e => (registration? n e).map fun _ => e.clock) h = some r.createdAt
  nodeApproved :
    r.nodeApproved = (latest (approval? n) (afterEarliest (registration? n) h)).getD false
  emailVerified :
    r.emailVerified =
      (last.emailVerified || (afterLatest (registration? n) h).any (verifies last.ownerUserId))
  lastSeen : r.lastSeen = latest (check? n) h
  updatedAt : latest (write? n last.ownerUserId) h = some r.updatedAt

/-! ## One more event -/

variable {n : String} {h : List Event} {e : Event} {last : Registration} {r : Enrollment}

/-- An event that is no registration of the node writes the columns that it tells something of. -/
theorem FollowsHistory.concat (r' : Enrollment) (hf : FollowsHistory n h last r)
    (known : latest (registration? n) h = some last) (hr : registration? n e = none)
    (same : r'.nodeKind = r.nodeKind ∧ r'.ownerUserId = r.ownerUserId ∧
      r'.ownerEmail = r.ownerEmail ∧ r'.registrationTokenHash = r.registrationTokenHash ∧
      r'.createdAt = r.createdAt)
    (happroved : r'.nodeApproved = (approval? n e).getD r.nodeApproved)
    (hverified : r'.emailVerified = (r.emailVerified || verifies last.ownerUserId e))
    (hseen : r'.lastSeen = (check? n e).or r.lastSeen)
    (hupdated : r'.updatedAt = (write? n last.ownerUserId e).getD r.updatedAt) :
    FollowsHistory n (h ++ [e]) last r' := by
  obtain ⟨hkind, howner, hemail, htoken, hcreated⟩ := same
  have begun : (earliest (registration? n) h).isSome := by
    rw [Option.isSome_iff_ne_none, Ne, earliest_eq_none_iff, ← latest_eq_none_iff, known]
    simp
  refine
    { nodeKind := by rw [hkind, hf.nodeKind]
      ownerUserId := by rw [howner, hf.ownerUserId]
      ownerEmail := by rw [hemail, hf.ownerEmail]
      registrationTokenHash := by rw [htoken, hf.registrationTokenHash]
      createdAt := ?_, nodeApproved := ?_, emailVerified := ?_, lastSeen := ?_, updatedAt := ?_ }
  · rw [earliest_concat, hf.createdAt, hcreated]
    rfl
  · rw [afterEarliest_concat, if_pos begun, latest_concat, happroved, hf.nodeApproved]
    cases approval? n e <;> rfl
  · rw [afterLatest_concat, hr, hverified, hf.emailVerified]
    simp [Bool.or_assoc]
  · rw [latest_concat, hseen, hf.lastSeen]
  · rw [latest_concat, hf.updatedAt, hupdated]
    cases write? n last.ownerUserId e <;> rfl

/-- A registration of a node that has a row keeps its approval, its date and its last check. -/
theorem FollowsHistory.concat_enroll {new : Registration} (hf : FollowsHistory n h last r)
    (known : latest (registration? n) h = some last) (hc : e.change? = some (.enroll n new)) :
    FollowsHistory n (h ++ [e]) new (renewed (new.row n e.clock) r) := by
  have hr : registration? n e = some new := by simp [registration?, hc]
  have begun : (earliest (registration? n) h).isSome := by
    rw [Option.isSome_iff_ne_none, Ne, earliest_eq_none_iff, ← latest_eq_none_iff, known]
    simp
  refine
    { nodeKind := rfl, ownerUserId := rfl, ownerEmail := rfl, registrationTokenHash := rfl
      createdAt := ?_, nodeApproved := ?_, emailVerified := ?_, lastSeen := ?_, updatedAt := ?_ }
  · rw [earliest_concat, hf.createdAt]
    rfl
  · have ha : approval? n e = none := by simp [approval?, hc]
    rw [afterEarliest_concat, if_pos begun, latest_concat, ha]
    exact hf.nodeApproved
  · rw [afterLatest_concat, hr]
    show new.emailVerified = (new.emailVerified || false)
    rw [Bool.or_false]
  · have ht : check? n e = none := by simp [check?, hc]
    rw [latest_concat, ht]
    exact hf.lastSeen
  · have hw : write? n new.ownerUserId e = some e.clock := by simp [write?, hc]
    rw [latest_concat, hw]
    rfl

/-- The first registration of a node. -/
theorem followsHistory_first {new : Registration} (unknown : latest (registration? n) h = none)
    (unseen : latest (check? n) h = none) (hc : e.change? = some (.enroll n new)) :
    FollowsHistory n (h ++ [e]) new (new.row n e.clock) := by
  have hr : registration? n e = some new := by simp [registration?, hc]
  have unbegun : earliest (registration? n) h = none := by
    rw [earliest_eq_none_iff, ← latest_eq_none_iff, unknown]
  refine
    { nodeKind := rfl, ownerUserId := rfl, ownerEmail := rfl, registrationTokenHash := rfl
      createdAt := ?_, nodeApproved := ?_, emailVerified := ?_, lastSeen := ?_, updatedAt := ?_ }
  · rw [earliest_concat, earliest_map_of_none (fun e _ => e.clock) unbegun, hr]
    rfl
  · rw [afterEarliest_concat, unbegun]
    rfl
  · rw [afterLatest_concat, hr]
    show new.emailVerified = (new.emailVerified || false)
    rw [Bool.or_false]
  · have ht : check? n e = none := by simp [check?, hc]
    rw [latest_concat, ht, unseen]
    rfl
  · have hw : write? n new.ownerUserId e = some e.clock := by simp [write?, hc]
    rw [latest_concat, hw]
    rfl

/-- Every change of the row of a node is told by the event that makes it. -/
theorem FollowsHistory.step {c : Change} (hf : FollowsHistory n h last r)
    (known : latest (registration? n) h = some last) (hc : e.change? = some c) :
    FollowsHistory n (h ++ [e]) ((registration? n e).getD last) (c.onRow n e.clock r) := by
  cases c with
  | enroll id new =>
    by_cases hid : id = n
    · subst hid
      have hr : registration? id e = some new := by simp [registration?, hc]
      rw [hr]
      show FollowsHistory id _ new (if id = id then _ else _)
      rw [if_pos rfl]
      exact hf.concat_enroll known hc
    · have hr : registration? n e = none := by simp [registration?, hc, hid]
      rw [hr]
      show FollowsHistory n _ last (if id = n then _ else r)
      rw [if_neg hid]
      apply FollowsHistory.concat r hf known hr ⟨rfl, rfl, rfl, rfl, rfl⟩
      · simp [approval?, hc]
      · simp [verifies, hc]
      · simp [check?, hc]
      · simp [write?, hc, hid]
  | approve id value =>
    have hr : registration? n e = none := by simp [registration?, hc]
    rw [hr]
    show FollowsHistory n _ last (if id = n then approved value e.clock r else r)
    by_cases hid : id = n
    · rw [if_pos hid]
      apply FollowsHistory.concat (approved value e.clock r) hf known hr ⟨rfl, rfl, rfl, rfl, rfl⟩
      · simp [approval?, hc, hid, approved]
      · simp [verifies, hc, approved]
      · simp [check?, hc, approved]
      · simp [write?, hc, hid, approved]
    · rw [if_neg hid]
      apply FollowsHistory.concat r hf known hr ⟨rfl, rfl, rfl, rfl, rfl⟩
      · simp [approval?, hc, hid]
      · simp [verifies, hc]
      · simp [check?, hc]
      · simp [write?, hc, hid]
  | touch id patch =>
    have hr : registration? n e = none := by simp [registration?, hc]
    rw [hr]
    show FollowsHistory n _ last (if id = n then touched patch e.clock r else r)
    by_cases hid : id = n
    · rw [if_pos hid]
      apply FollowsHistory.concat (touched patch e.clock r) hf known hr ⟨rfl, rfl, rfl, rfl, rfl⟩
      · simp [approval?, hc, touched, ValidationPatch.apply]
      · simp [verifies, hc, touched, ValidationPatch.apply]
      · simp [check?, hc, hid, touched]
      · simp [write?, hc, hid, touched]
    · rw [if_neg hid]
      apply FollowsHistory.concat r hf known hr ⟨rfl, rfl, rfl, rfl, rfl⟩
      · simp [approval?, hc]
      · simp [verifies, hc]
      · simp [check?, hc, hid]
      · simp [write?, hc, hid]
  | verifyOwner owner =>
    have hr : registration? n e = none := by simp [registration?, hc]
    rw [hr]
    show FollowsHistory n _ last (if r.ownerUserId == owner then ownerVerified e.clock r else r)
    by_cases howner : r.ownerUserId = owner
    · have hlast : owner = last.ownerUserId := by rw [← howner, hf.ownerUserId]
      rw [if_pos (beq_iff_eq.mpr howner)]
      apply FollowsHistory.concat (ownerVerified e.clock r) hf known hr ⟨rfl, rfl, rfl, rfl, rfl⟩
      · simp [approval?, hc, ownerVerified]
      · simp [verifies, hc, hlast, ownerVerified]
      · simp [check?, hc, ownerVerified]
      · simp [write?, hc, hlast, ownerVerified]
    · have hlast : ¬ owner = last.ownerUserId := by
        rw [← hf.ownerUserId]
        exact fun h => howner h.symm
      rw [if_neg (by simpa using howner)]
      apply FollowsHistory.concat r hf known hr ⟨rfl, rfl, rfl, rfl, rfl⟩
      · simp [approval?, hc]
      · simp [verifies, hc, hlast]
      · simp [check?, hc]
      · simp [write?, hc, hlast]

/-! ## Runs -/

variable {settings : Settings} {t u : Tables} {rows : List Enrollment}

/-- A node that never registered has no row and was never checked; another has one row. -/
def Tracks (n : String) (h : List Event) (rows : List Enrollment) : Prop :=
  match latest (registration? n) h with
  | none => ofNode n rows = [] ∧ latest (check? n) h = none
  | some last => ∃ r, ofNode n rows = [r] ∧ FollowsHistory n h last r

/-- Only a node that has a row is answered with a row when it is checked. -/
theorem known_of_answered {request : Request} {rows' : List Enrollment} {now : Int} {a : Answer}
    {patch : ValidationPatch} (answered : Answered now rows request rows' a)
    (hc : request.change? a = some (.touch n patch)) : ofNode n rows ≠ [] := by
  cases answered with
  | enroll hk =>
    unfold Request.change? at hc
    split at hc <;> simp_all
  | approve id value =>
    unfold Request.change? at hc
    split at hc <;> simp_all
  | @touch id form told hp =>
    have hf : ∀ e, (touched told now e).nodeId = e.nodeId := fun e => rfl
    change Request.change? (.touch id form)
      (.record ((find? id (change id (touched told now) rows).1).map Enrollment.record)) = _ at hc
    cases he : find? id (change id (touched told now) rows).1 with
    | none =>
      rw [he] at hc
      cases hc
    | some e =>
      rw [he] at hc
      simp only [Request.change?, Option.map_some, hp, Except.toOption, Option.some.injEq,
        Change.touch.injEq] at hc
      rw [← hc.1]
      exact ofNode_ne_nil_of_find? hf he
  | verifyOwner owner => cases hc
  | get id => cases hc
  | listByOwner owner => cases hc
  | checkToken id raw => cases hc

theorem known_of_touch {patch : ValidationPatch} (h : e.Moves settings (some t) (some u))
    (hc : e.change? = some (.touch n patch)) : ofNode n t.enrollments ≠ [] := by
  obtain ⟨now, deed⟩ := e
  unfold Event.change? at hc
  split at hc
  · next request a hdeed =>
    cases hdeed
    obtain ⟨v, hv, he⟩ := Event.moves_ok h
    obtain ⟨rows, hr, -⟩ := Plan.exists_of_effectOf_on he fun _ => rfl
    exact known_of_answered (answered_of_effect request hr) hc
  · next request a hdeed =>
    unfold Accounts.Request.change? at hc
    split at hc <;> cases hc
  · cases hc

/-- An event of a node without a row that does not register it leaves it so. -/
theorem Tracks.step_unknown {c : Change} (hnil : ofNode n t.enrollments = [])
    (unseen : latest (check? n) h = none) (unknown : latest (registration? n) h = none)
    (moves : e.Moves settings (some t) (some u)) (hc : e.change? = some c) :
    Tracks n (h ++ [e]) (c.apply e.clock t.enrollments) := by
  unfold Tracks
  rw [latest_concat, unknown, latest_concat, unseen, ofNode_apply_of_nil c hnil]
  cases c with
  | enroll id new =>
    by_cases hid : id = n
    · subst hid
      have hr : registration? id e = some new := by simp [registration?, hc]
      rw [hr]
      exact ⟨new.row id e.clock, if_pos rfl, followsHistory_first unknown unseen hc⟩
    · have hr : registration? n e = none := by simp [registration?, hc, hid]
      have ht : check? n e = none := by simp [check?, hc]
      rw [hr, ht]
      exact ⟨if_neg hid, rfl⟩
  | approve id value =>
    have hr : registration? n e = none := by simp [registration?, hc]
    have ht : check? n e = none := by simp [check?, hc]
    rw [hr, ht]
    exact ⟨rfl, rfl⟩
  | touch id patch =>
    have hr : registration? n e = none := by simp [registration?, hc]
    have ht : check? n e = none := by
      have hid : ¬ id = n := by
        rintro rfl
        exact known_of_touch moves hc hnil
      simp [check?, hc, hid]
    rw [hr, ht]
    exact ⟨rfl, rfl⟩
  | verifyOwner owner =>
    have hr : registration? n e = none := by simp [registration?, hc]
    have ht : check? n e = none := by simp [check?, hc]
    rw [hr, ht]
    exact ⟨rfl, rfl⟩

/-- An event that changes no enrollment tells nothing of any node. -/
theorem Tracks.step_silent (ht : Tracks n h rows) (hc : e.change? = none) :
    Tracks n (h ++ [e]) rows := by
  have hr : registration? n e = none := by simp [registration?, hc]
  have hs : check? n e = none := by simp [check?, hc]
  unfold Tracks at ht ⊢
  rw [latest_concat, hr, latest_concat, hs, Option.none_or, Option.none_or]
  cases known : latest (registration? n) h with
  | none =>
    rw [known] at ht
    exact ht
  | some last =>
    rw [known] at ht
    obtain ⟨r, hrow, hf⟩ := ht
    refine ⟨r, hrow, FollowsHistory.concat r hf known hr ⟨rfl, rfl, rfl, rfl, rfl⟩ ?_ ?_ ?_ ?_⟩
    · simp [approval?, hc]
    · simp [verifies, hc]
    · simp [hs]
    · simp [write?, hc]

theorem Tracks.step (ht : Tracks n h t.enrollments) (moves : e.Moves settings (some t) (some u)) :
    Tracks n (h ++ [e]) u.enrollments := by
  rw [enrollments_of_moves moves]
  cases hc : e.change? with
  | none => exact ht.step_silent hc
  | some c =>
    unfold Tracks at ht
    cases known : latest (registration? n) h with
    | none =>
      rw [known] at ht
      exact Tracks.step_unknown ht.1 ht.2 known moves hc
    | some last =>
      rw [known] at ht
      obtain ⟨r, hrow, hf⟩ := ht
      unfold Tracks
      rw [latest_concat, known]
      have hnext := hf.step known hc
      cases hr : registration? n e with
      | none =>
        rw [hr] at hnext
        exact ⟨_, ofNode_apply c hrow, hnext⟩
      | some new =>
        rw [hr] at hnext
        exact ⟨_, ofNode_apply c hrow, hnext⟩

/-- While the schema is kept the rows of a node follow the history. -/
theorem tracks_of_course {tables : Option Tables} (course : Course settings (some .empty) h tables)
    (kept : ∀ e ∈ h, e.deed ≠ .dropSchema) :
    ∃ t, tables = some t ∧ Tracks n h t.enrollments :=
  course.tracked (P := fun h t => Tracks n h t.enrollments) ⟨rfl, rfl⟩
    (fun _ _ _ _ tracks moves => tracks.step moves) kept

end AccountPortal.Enrollments

namespace AccountPortal

open Enrollments in
/-- While the schema is kept, a node has no row before it registers, and afterwards the one row
that the history makes of it. -/
theorem row_follows_history (settings : Settings) (clock : Int) (steps : List Portal.Step)
    (kept : .dropSchema ∉ steps) (n : String) :
    let p := Portal.fresh settings clock
    ∃ t, (p.run steps).1.tables = some t ∧
      match latest (registration? n) (p.history steps) with
      | none => ofNode n t.enrollments = []
      | some last =>
        ∃ r, ofNode n t.enrollments = [r] ∧ FollowsHistory n (p.history steps) last r := by
  intro p
  have course := p.run_course steps
  have hnew : Tracks n [] Tables.empty.enrollments := ⟨rfl, rfl⟩
  obtain ⟨t, ht, tracks⟩ := course.tracked (P := fun h t => Tracks n h t.enrollments) hnew
    (fun h e t u tracks moves => tracks.step moves) (p.kept_of_not_mem kept)
  refine ⟨t, ht, ?_⟩
  unfold Tracks at tracks
  split
  · next unknown =>
    rw [unknown] at tracks
    exact tracks.1
  · next last known =>
    rw [known] at tracks
    exact tracks

/-- A node that is approved, then handed to another owner, whose email is verified after that. -/
theorem row_after_change_of_owner :
    let steps : List Portal.Step :=
      [.call (.enrollments (.enroll "n" (.text "agent") "u" "u@x" "h" true)),
        .call (.enrollments (.approve "n" true)), .advance 5,
        .call (.enrollments (.enroll "n" (.text "coordinator") "v" "v@x" "k" false)),
        .call (.enrollments (.verifyOwner "u")), .advance 5,
        .call (.accounts (.create "v" "v@x" none none false)), .call (.accounts (.verifyEmail "v"))]
    let p := Portal.fresh .standard 0
    let last : Enrollments.Registration := ⟨.coordinator, "v", "v@x", "k", false⟩
    .dropSchema ∉ steps ∧ latest (Enrollments.registration? "n") (p.history steps) = some last ∧
      ∃ t r, (p.run steps).1.tables = some t ∧ Enrollments.ofNode "n" t.enrollments = [r] ∧
        Enrollments.FollowsHistory "n" (p.history steps) last r ∧
        r.createdAt = 0 ∧ r.nodeApproved = true ∧ r.emailVerified = true ∧ r.updatedAt = 10 := by
  intro steps p last
  have kept : .dropSchema ∉ steps := by simp [steps]
  have known : latest (Enrollments.registration? "n") (p.history steps) = some last := by
    simp only [steps, p, last]
    rfl
  obtain ⟨t, ht, law⟩ := row_follows_history .standard 0 steps kept "n"
  rw [show latest (Enrollments.registration? "n") ((Portal.fresh .standard 0).history steps) =
    some last from known] at law
  obtain ⟨r, hrow, hf⟩ := law
  have created : earliest (fun e => (Enrollments.registration? "n" e).map fun _ => e.clock)
      (p.history steps) = some 0 := by
    simp only [steps, p]
    rfl
  have approval : (latest (Enrollments.approval? "n")
      (afterEarliest (Enrollments.registration? "n") (p.history steps))).getD false = true := by
    simp only [steps, p]
    rfl
  have verification : (last.emailVerified || (afterLatest (Enrollments.registration? "n")
      (p.history steps)).any (Enrollments.verifies last.ownerUserId)) = true := by
    simp only [steps, p, last]
    rfl
  have written : latest (Enrollments.write? "n" last.ownerUserId) (p.history steps) = some 10 := by
    simp only [steps, p, last]
    rfl
  refine ⟨kept, known, t, r, ht, hrow, hf, ?_, ?_, ?_, ?_⟩
  · exact Option.some.inj (hf.createdAt.symm.trans created)
  · exact hf.nodeApproved.trans approval
  · exact hf.emailVerified.trans verification
  · exact Option.some.inj (hf.updatedAt.symm.trans written)

end AccountPortal

import AccountPortal.Proofs.Purge.Calls
import AccountPortal.Proofs.Query.Unique
import AccountPortal.Proofs.Session.Validity

/-!
# What a purge removes

A purge takes from each of the four ledgers the rows that nobody would be given any more: a row goes
just when who asks for it by its key at that clock is answered with nothing, and stays just when the
answer is the row (`Cleared`). It counts what goes, and a second purge finds nothing to remove:

    Cleared ask lost granted rows (Rows.remove (!live ·) rows) (rows.countP (!live ·))
      when ask r = .ok (if live r then granted r else lost) for every row        (cleared_of_live)
    (t.purge now).1.purge now = ((t.purge now).1, .purged 0 0 0 0)                   (purge_purge)

Each ledger has a test of its own for what is found and another for what is purged, so that they are
complements is shown for each (`Sessions.cleared`, `EmailTokens.cleared`, `OAuthStates.cleared`,
`PasskeyChallenges.cleared`).
-/

namespace AccountPortal

/-! ## Rows that are asked for -/

/-- Rows before and after a purge that tells how many it removed. Who asks for a row by its key is
answered with the row or with nothing. -/
structure Cleared {α : Type} (ask : α → Except Fault Answer) (lost : Answer) (granted : α → Answer)
    (before after : List α) (removed : Nat) : Prop where
  /-- What stays is as it was, in its order. -/
  sublist : after.Sublist before
  counted : after.length + removed = before.length
  gone_iff : ∀ r, Gone before after r ↔ r ∈ before ∧ ask r = .ok lost
  mem_iff : ∀ r, r ∈ after ↔ r ∈ before ∧ ask r = .ok (granted r)

theorem cleared_of_live {α : Type} {ask : α → Except Fault Answer} {lost : Answer}
    {granted : α → Answer} {live : α → Bool} {rows : List α} (differ : ∀ r, granted r ≠ lost)
    (asked : ∀ r ∈ rows, ask r = .ok (if live r then granted r else lost)) :
    Cleared ask lost granted rows (Rows.remove (fun r => !live r) rows)
      (rows.countP fun r => !live r) := by
  have lost_iff : ∀ r ∈ rows, (!live r) = true ↔ ask r = .ok lost := by
    intro r hr
    rw [asked r hr, Except.ok.injEq]
    cases live r <;> simp [differ]
  have granted_iff : ∀ r ∈ rows, (!live r) = false ↔ ask r = .ok (granted r) := by
    intro r hr
    rw [asked r hr, Except.ok.injEq]
    cases live r <;> simp [(differ r).symm]
  refine ⟨List.filter_sublist, ?_, ?_, ?_⟩
  · have both := List.length_eq_countP_add_countP (fun r => !live r) (l := rows)
    simp only [Bool.not_eq_true, Bool.decide_eq_false] at both
    rw [Rows.remove, ← List.countP_eq_length_filter, both, Nat.add_comm]
  · intro r
    rw [gone_of_remove]
    exact and_congr_right (lost_iff r)
  · intro r
    rw [Rows.mem_remove]
    exact and_congr_right (granted_iff r)

theorem Rows.countP_remove {α : Type} (p : α → Bool) (rows : List α) :
    (Rows.remove p rows).countP p = 0 := by
  rw [List.countP_eq_zero]
  intro r hr
  rw [(Rows.mem_remove.mp hr).2]
  exact Bool.false_ne_true

/-- A second purge at one clock has nothing to remove. -/
theorem Tables.purge_purge (now : Int) (t : Tables) :
    (t.purge now).1.purge now = ((t.purge now).1, .purged 0 0 0 0) := by
  simp only [Tables.purge, Sessions.purge, EmailTokens.purge, OAuthStates.purge,
    PasskeyChallenges.purge, Rows.purge, Rows.remove_remove, Rows.countP_remove]

/-! ## The four ledgers -/

section Ledgers

variable {p : Portal} {t : Tables} (there : p.tables = some t) (fits : fitsWord p.clock = true)
  (differ : t.KeysDiffer)
include there fits

/-- A call that updates one part of the tables at the clock is answered from that part. -/
theorem Portal.outcome_of_update {σ : Type} {c : Call} {get : Tables → σ}
    {set : σ → Tables → Tables} (write : σ → σ × Answer)
    (h : c.plan p.context = (Except.ok (.update [p.clock] write)).map (Plan.on get set))
    (hset : ∀ t, set (get t) t = t) : (p.call c).2.outcome = .ok (write (get t)).2 := by
  have effect : c.effect p.context t = .ok (set (write (get t)).1 t, (write (get t)).2) := by
    rw [Call.effect_of_update p.context c h hset, if_pos fits]
  exact Portal.outcome_of_effect_ok there effect

include differ

theorem Sessions.cleared :
    Cleared (fun r => (p.call (.sessions (.find r.tokenHash))).2.outcome) (.record none)
      (fun r => .record (some r.record)) t.sessions (t.purge p.clock).1.sessions
      (t.sessions.countP (!·.isLive p.clock)) := by
  refine cleared_of_live (by simp) fun r hr => ?_
  have hashes : (t.sessions.map Session.tokenHash).Nodup :=
    differ.sessions.column (by simp [keysOf, Keyed.unique])
  have found : find? r.tokenHash p.clock t.sessions = if r.isLive p.clock then some r else none :=
    Rows.find?_own_key hashes hr
  rw [outcome_find there fits, found]
  cases r.isLive p.clock <;> rfl

theorem EmailTokens.cleared :
    Cleared (fun r => (p.call (.emailTokens (.consume r.tokenHash))).2.outcome) (.owner none)
      (fun r => .owner (some r.userId)) t.emailTokens (t.purge p.clock).1.emailTokens
      (t.emailTokens.countP (!·.isLive p.clock)) := by
  refine cleared_of_live (by simp) fun r hr => ?_
  have hashes : (t.emailTokens.map EmailToken.tokenHash).Nodup :=
    differ.emailTokens.column (by simp [keysOf, Keyed.unique])
  rw [Portal.outcome_of_update there fits (consume r.tokenHash p.clock) rfl fun _ => rfl, consume,
    Rows.find?_own_key hashes hr]
  cases r.isLive p.clock <;> rfl

theorem OAuthStates.cleared :
    Cleared (fun r => (p.call (.oauthStates (.consume r.stateId))).2.outcome) (.record none)
      (fun r => .record (some r.record)) t.oauthStates (t.purge p.clock).1.oauthStates
      (t.oauthStates.countP (!·.isLive p.clock)) := by
  refine cleared_of_live (by simp) fun r hr => ?_
  have ids : (t.oauthStates.map OAuthState.stateId).Nodup :=
    differ.oauthStates.column List.mem_cons_self
  rw [Portal.outcome_of_update there fits (consume r.stateId p.clock) rfl fun _ => rfl, consume,
    Rows.find?_own_key ids hr]
  cases r.isLive p.clock <;> rfl

theorem PasskeyChallenges.cleared :
    Cleared (fun r => (p.call (.passkeyChallenges (.consume r.challengeId))).2.outcome)
      (.record none) (fun r => .record (some r.record)) t.passkeyChallenges
      (t.purge p.clock).1.passkeyChallenges
      (t.passkeyChallenges.countP (!·.isLive p.clock)) := by
  refine cleared_of_live (by simp) fun r hr => ?_
  have ids : (t.passkeyChallenges.map PasskeyChallenge.challengeId).Nodup :=
    differ.passkeyChallenges.column List.mem_cons_self
  rw [Portal.outcome_of_update there fits (consume r.challengeId p.clock) rfl fun _ => rfl, consume,
    Rows.find?_own_key ids hr]
  cases r.isLive p.clock <;> rfl

end Ledgers

/-! ## The purge of all -/

theorem effect_purgeExpired {ctx : Context} (fits : fitsWord ctx.clock = true) (t : Tables) :
    Call.purgeExpired.effect ctx t = .ok (t.purge ctx.clock) := by
  show (Plan.update [ctx.clock] (Tables.purge ctx.clock)).effect t = _
  rw [Plan.effect_update, List.all_cons, List.all_nil, fits]
  rfl

/-- A purge of all ledgers, after every run that leaves the schema and at a clock in range: of each
ledger it tells how many rows it removes, and a row is removed just when a look-up by its key, or a
consumer of its key, would be answered with nothing instead. What is left is as it was, in these and
in the other tables, and a purge after it removes nothing. -/
theorem purge_removes_what_nobody_is_given (settings : Settings) (clock : Int)
    (steps : List Portal.Step) (t : Tables)
    (there : ((Portal.fresh settings clock).run steps).1.tables = some t)
    (fits : fitsWord ((Portal.fresh settings clock).run steps).1.clock = true) :
    let q := ((Portal.fresh settings clock).run steps).1
    let q' := (q.call .purgeExpired).1
    ∃ (u : Tables) (sessions emailTokens oauthStates passkeyChallenges : Nat),
      (q.call .purgeExpired).2.outcome =
        .ok (.purged sessions emailTokens oauthStates passkeyChallenges) ∧
      q'.tables = some u ∧
      Cleared (fun r => (q.call (.sessions (.find r.tokenHash))).2.outcome) (.record none)
        (fun r => .record (some r.record)) t.sessions u.sessions sessions ∧
      Cleared (fun r => (q.call (.emailTokens (.consume r.tokenHash))).2.outcome) (.owner none)
        (fun r => .owner (some r.userId)) t.emailTokens u.emailTokens emailTokens ∧
      Cleared (fun r => (q.call (.oauthStates (.consume r.stateId))).2.outcome) (.record none)
        (fun r => .record (some r.record)) t.oauthStates u.oauthStates oauthStates ∧
      Cleared (fun r => (q.call (.passkeyChallenges (.consume r.challengeId))).2.outcome)
        (.record none) (fun r => .record (some r.record)) t.passkeyChallenges u.passkeyChallenges
        passkeyChallenges ∧
      (u.users = t.users ∧ u.identityLinks = t.identityLinks ∧ u.enrollments = t.enrollments ∧
        u.wallets = t.wallets ∧ u.passkeyCredentials = t.passkeyCredentials) ∧
      (q'.call .purgeExpired).2.outcome = .ok (.purged 0 0 0 0) ∧
      (q'.call .purgeExpired).1.tables = some u := by
  intro q q'
  have differ : t.KeysDiffer :=
    keysDiffer_of_course ((Portal.fresh settings clock).run_course steps) t there
  have first : Call.purgeExpired.effect q.context t = .ok (t.purge q.clock) :=
    effect_purgeExpired fits t
  have left : q'.tables = some (t.purge q.clock).1 := Portal.tables_of_effect_ok there first
  have second : Call.purgeExpired.effect q'.context (t.purge q.clock).1 =
      .ok ((t.purge q.clock).1, .purged 0 0 0 0) := by
    rw [effect_purgeExpired fits]
    exact congrArg Except.ok (Tables.purge_purge q.clock t)
  exact ⟨(t.purge q.clock).1, _, _, _, _, Portal.outcome_of_effect_ok there first, left,
    Sessions.cleared there fits differ, EmailTokens.cleared there fits differ,
    OAuthStates.cleared there fits differ, PasskeyChallenges.cleared there fits differ,
    ⟨rfl, rfl, rfl, rfl, rfl⟩, Portal.outcome_of_effect_ok left second,
    Portal.tables_of_effect_ok left second⟩

/-- A purge at the moment that one of two sessions expires. The token of the address is good for
longer and was consumed. -/
theorem session_and_spent_token_purged :
    let steps : List Portal.Step :=
      [.call (.sessions (.create "s" "u" "h" (some 10))),
        .call (.sessions (.create "t" "u" "i" (some 11))),
        .call (.emailTokens (.create "e" "u" "k" (some 100))), .call (.emailTokens (.consume "k")),
        .advance 10]
    let expired : Session := ⟨"s", "u", "h", 10, 0⟩
    let live : Session := ⟨"t", "u", "i", 11, 0⟩
    let spent : EmailToken := ⟨"e", "u", "k", 100, some 0, 0⟩
    let t : Tables := { Tables.empty with sessions := [expired, live], emailTokens := [spent] }
    let q := ((Portal.fresh .standard 0).run steps).1
    let q' := (q.call .purgeExpired).1
    q.tables = some t ∧ fitsWord q.clock = true ∧
      (q.call .purgeExpired).2.outcome = .ok (.purged 1 1 0 0) ∧
      ∃ u, q'.tables = some u ∧ Gone t.sessions u.sessions expired ∧ live ∈ u.sessions ∧
        Gone t.emailTokens u.emailTokens spent ∧
        (q'.call .purgeExpired).2.outcome = .ok (.purged 0 0 0 0) := by
  intro steps expired live spent t q q'
  have there : q.tables = some t := rfl
  have fits : fitsWord q.clock = true := rfl
  obtain ⟨u, _, _, _, _, -, left, sessions, emailTokens, -, -, -, again, -⟩ :=
    purge_removes_what_nobody_is_given .standard 0 steps t there fits
  refine ⟨there, fits, rfl, u, left, (sessions.gone_iff expired).mpr ⟨by simp [t], rfl⟩,
    (sessions.mem_iff live).mpr ⟨by simp [t], rfl⟩,
    (emailTokens.gone_iff spent).mpr ⟨by simp [t], rfl⟩, again⟩

end AccountPortal

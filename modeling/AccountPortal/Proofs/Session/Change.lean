import AccountPortal.Proofs.History
import AccountPortal.Proofs.Rows

/-!
# What events do to the sessions

A session is opened by a create that is answered, and closed by logging out its token or its user,
by a purge after its expiry, or with the schema; no event does anything else to the rows:

    e.Moves settings (some t) (some u) →
      (s ∈ u.sessions ↔ Opens settings s e ∨ s ∈ t.sessions ∧ ¬ Closes s e)       (mem_of_moves)

No two rows share an id or the hash of a token (`Distinct`), as a create needs both to be free.
-/

namespace AccountPortal.Sessions

/-! ## Requests -/

/-- The row of a create. -/
def opened (ctx : Context) (id user hash : String) (given : Option Int) : Session :=
  ⟨id, user, hash, ctx.expiry given ctx.settings.sessionTtl, ctx.clock⟩

/-- The rows after a request that is answered, and its answer. -/
inductive Answered (ctx : Context) (rows : List Session) :
    Request → List Session → Answer → Prop where
  | create {id user hash : String} {given : Option Int}
      (free : ∀ r ∈ rows, r.sessionId ≠ id ∧ r.tokenHash ≠ hash) :
      Answered ctx rows (.create id user hash given) (rows ++ [opened ctx id user hash given])
        (.record (some (opened ctx id user hash given).record))
  | find (hash : String) :
      Answered ctx rows (.find hash) rows
        (.record ((find? hash ctx.clock rows).map Session.record))
  | logOut (hash : String) :
      Answered ctx rows (.logOut hash) (Rows.remove (·.tokenHash == hash) rows)
        (.flag (rows.any (·.tokenHash == hash)))
  | logOutUser (user : String) :
      Answered ctx rows (.logOutUser user) (Rows.remove (·.userId == user) rows)
        (.count (rows.countP (·.userId == user)))
  | purge :
      Answered ctx rows .purge (Rows.remove (!·.isLive ctx.clock) rows)
        (.count (rows.countP (!·.isLive ctx.clock)))

variable {ctx : Context} {rows rows' : List Session} {a : Answer}

theorem answered_of_effect (r : Request) (h : Plan.effectOf (plan ctx r) rows = .ok (rows', a)) :
    Answered ctx rows r rows' a := by
  cases r with
  | create id user hash given =>
    simp only [plan, Plan.effectOf_ok] at h
    obtain ⟨-, hinsert⟩ := Plan.effect_transaction_eq_ok_iff.mp h
    obtain ⟨free, rfl, rfl⟩ := Rows.eq_of_insert_ok hinsert
    refine .create ?_
    intro r hr
    obtain ⟨hid, hhash⟩ := Bool.or_eq_false_iff.mp (free r hr)
    exact ⟨beq_eq_false_iff_ne.mp hid, beq_eq_false_iff_ne.mp hhash⟩
  | find hash =>
    simp only [plan, Plan.effectOf_ok] at h
    obtain ⟨-, hfind⟩ := Plan.effect_transaction_eq_ok_iff.mp h
    cases hfind
    exact .find hash
  | logOut hash =>
    simp only [plan, Plan.effectOf_ok] at h
    obtain ⟨-, rfl, rfl⟩ := Plan.effect_update_eq_ok_iff.mp h
    exact .logOut hash
  | logOutUser user =>
    simp only [plan, Plan.effectOf_ok] at h
    obtain ⟨-, rfl, rfl⟩ := Plan.effect_update_eq_ok_iff.mp h
    exact .logOutUser user
  | purge =>
    simp only [plan, Plan.effectOf_ok] at h
    obtain ⟨-, rfl, rfl⟩ := Plan.effect_update_eq_ok_iff.mp h
    exact .purge

/-! ## Distinct keys -/

/-- No two rows share an id or the hash of a token. -/
structure Distinct (rows : List Session) : Prop where
  ids : (rows.map Session.sessionId).Nodup
  hashes : (rows.map Session.tokenHash).Nodup

theorem distinct_nil : Distinct [] := ⟨List.nodup_nil, List.nodup_nil⟩

theorem Distinct.remove {p : Session → Bool} (h : Distinct rows) :
    Distinct (Rows.remove p rows) :=
  ⟨Rows.nodup_map_remove h.ids, Rows.nodup_map_remove h.hashes⟩

theorem Distinct.answered {r : Request} (h : Distinct rows) (made : Answered ctx rows r rows' a) :
    Distinct rows' := by
  cases made with
  | create free =>
    exact ⟨Rows.nodup_map_append h.ids fun r hr => (free r hr).1,
      Rows.nodup_map_append h.hashes fun r hr => (free r hr).2⟩
  | find hash => exact h
  | logOut hash => exact h.remove
  | logOutUser user => exact h.remove
  | purge => exact h.remove

/-! ## Events -/

/-- A create that is answered gives the session, with the expiry that is asked for or else the
lifetime of the settings. -/
def Opens (settings : Settings) (s : Session) (e : Event) : Prop :=
  ∃ given a,
    e.deed = .call (.sessions (.create s.sessionId s.userId s.tokenHash given)) (.ok a) ∧
    s.expiresAt = given.getD (e.clock + settings.sessionTtl) ∧ s.createdAt = e.clock

def Closes (s : Session) (e : Event) : Prop :=
  match e.deed with
  | .call (.sessions (.logOut hash)) _ => hash = s.tokenHash
  | .call (.sessions (.logOutUser user)) _ => user = s.userId
  | .call (.sessions .purge) (.ok _) => s.expiresAt ≤ e.clock
  | .call .purgeExpired (.ok _) => s.expiresAt ≤ e.clock
  | .dropSchema => True
  | _ => False

variable {settings : Settings} {now : Int} {s : Session} {t u : Tables}

theorem mem_of_purge :
    s ∈ Rows.remove (!·.isLive now) rows ↔ s ∈ rows ∧ ¬ s.expiresAt ≤ now := by
  rw [Rows.mem_remove]
  simp [Session.isLive]

theorem Answered.mem_iff {r : Request} (made : Answered ⟨settings, now⟩ rows r rows' a) :
    s ∈ rows' ↔ Opens settings s ⟨now, .call (.sessions r) (.ok a)⟩ ∨
      (s ∈ rows ∧ ¬ Closes s ⟨now, .call (.sessions r) (.ok a)⟩) := by
  cases made with
  | @create id user hash given free =>
    have opens : Opens settings s ⟨now, .call (.sessions (.create id user hash given))
          (.ok (.record (some (opened ⟨settings, now⟩ id user hash given).record)))⟩ ↔
        s = opened ⟨settings, now⟩ id user hash given := by
      constructor
      · rintro ⟨given', a', hdeed, hexpiry, hcreated⟩
        cases hdeed
        cases s
        simp_all [opened, Context.expiry]
      · rintro rfl
        exact ⟨given, _, rfl, rfl, rfl⟩
    rw [opens, List.mem_append, List.mem_singleton, or_comm]
    simp [Closes]
  | find hash => simp [Opens, Closes]
  | logOut hash =>
    rw [Rows.mem_remove]
    simp [Opens, Closes, eq_comm (a := hash)]
  | logOutUser user =>
    rw [Rows.mem_remove]
    simp [Opens, Closes, eq_comm (a := user)]
  | purge =>
    rw [mem_of_purge]
    simp [Opens, Closes]

/-- A call that fails neither opens a session nor closes one. -/
theorem not_closes_of_error {c : Call} {f : Fault} {after : Option Tables}
    (moves : Event.Moves settings ⟨now, .call c (.error f)⟩ (some t) after) :
    ¬ Closes s ⟨now, .call c (.error f)⟩ := by
  have succeeds : ∀ {v : Tables} {a : Answer}, c.effect ⟨settings, now⟩ t = .ok (v, a) → False := by
    intro v a he
    obtain ⟨conn, h⟩ := moves
    rw [Portal.attempt_eq_of_effect_ok (p := ⟨settings, now, some t, []⟩) rfl conn he] at h
    cases h
  intro closes
  cases c with
  | sessions r =>
    cases r with
    | logOut hash => exact succeeds rfl
    | logOutUser user => exact succeeds rfl
    | _ => exact closes
  | _ => exact closes

theorem not_opens_of_error {c : Call} {f : Fault} :
    ¬ Opens settings s ⟨now, .call c (.error f)⟩ := by
  rintro ⟨given, a, hdeed, -⟩
  cases hdeed

theorem answered_of_call {r : Request} (h : (Call.sessions r).effect ctx t = .ok (u, a)) :
    Answered ctx t.sessions r u.sessions a := by
  obtain ⟨rows, hr, rfl⟩ := Plan.exists_of_effectOf_on h fun _ => rfl
  exact answered_of_effect r hr

/-- What a call makes of the sessions, on their own store or another. -/
theorem sessions_of_effect {c : Call} (h : c.effect ctx t = .ok (u, a)) :
    (∃ r, c = .sessions r ∧ Answered ctx t.sessions r u.sessions a) ∨
      (c = .purgeExpired ∧ u.sessions = Rows.remove (!·.isLive ctx.clock) t.sessions) ∨
      (c ≠ .purgeExpired ∧ (∀ r, c ≠ .sessions r) ∧ u.sessions = t.sessions) := by
  cases c with
  | sessions r => exact Or.inl ⟨r, rfl, answered_of_call h⟩
  | purgeExpired =>
    obtain ⟨-, rfl, -⟩ := Plan.effect_update_eq_ok_iff.mp h
    exact Or.inr (Or.inl ⟨rfl, rfl⟩)
  | _ =>
    have kept := Plan.keep_of_effectOf_on h (fun _ => rfl) Tables.sessions fun _ _ => rfl
    exact Or.inr (Or.inr ⟨by simp, by simp, kept⟩)

theorem mem_of_moves {e : Event} (moves : e.Moves settings (some t) (some u)) (s : Session) :
    s ∈ u.sessions ↔ Opens settings s e ∨ (s ∈ t.sessions ∧ ¬ Closes s e) := by
  obtain ⟨now, deed⟩ := e
  cases deed with
  | migrate =>
    cases moves
    simp [Opens, Closes]
  | dropSchema => cases moves
  | call c out =>
    cases out with
    | error f =>
      have closes := not_closes_of_error (s := s) moves
      cases Event.moves_error moves
      simp [not_opens_of_error, closes]
    | ok a =>
      obtain ⟨v, hv, heffect⟩ := Event.moves_ok moves
      cases hv
      rcases sessions_of_effect heffect with ⟨r, rfl, made⟩ | ⟨rfl, hrows⟩ | ⟨hpurge, hother, hrows⟩
      · exact made.mem_iff
      · rw [hrows, mem_of_purge]
        simp [Opens, Closes]
      · rw [hrows]
        cases c <;> simp_all [Opens, Closes]

theorem distinct_of_moves {e : Event} (moves : e.Moves settings (some t) (some u))
    (h : Distinct t.sessions) : Distinct u.sessions := by
  refine Event.keep_of_moves (P := fun t => Distinct t.sessions) moves h fun c a heffect => ?_
  rcases sessions_of_effect heffect with ⟨r, -, made⟩ | ⟨-, hrows⟩ | ⟨-, -, hrows⟩
  · exact h.answered made
  · rw [hrows]
    exact h.remove
  · rw [hrows]
    exact h

end AccountPortal.Sessions

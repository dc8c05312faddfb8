import AccountPortal.Proofs.Purge.Sheds
import AccountPortal.Proofs.Repetition.Calls

/-!
# Calls that cannot tell a purge

Two portals whose tables differ only in rows that a purge removed from one of them (`Tables.Shed`):
while the clock is not behind the purge, a call that creates nothing under the keys of these rows
meets the same fault on both, or is answered and leaves tables that differ so again. The answers are
the same but for calls that count what they remove (`Call.countsRemoved`):

    Shed before after t t' → Plan.Agrees (Shed before after) c.Alike
      (c.effect ctx t) (c.effect ctx t')                                        (agrees_of_shed)
-/

namespace AccountPortal

/-! ## What may differ -/

/-- A row that was removed. -/
def Gone {α : Type} (before after : List α) (r : α) : Prop := r ∈ before ∧ r ∉ after

theorem gone_of_remove {α : Type} {q : α → Bool} {rows : List α} {r : α} :
    Gone rows (Rows.remove q rows) r ↔ r ∈ rows ∧ q r = true := by
  unfold Gone
  rw [Rows.mem_remove]
  constructor
  · rintro ⟨hr, hkept⟩
    refine ⟨hr, ?_⟩
    cases hq : q r with
    | true => rfl
    | false => exact absurd ⟨hr, hq⟩ hkept
  · rintro ⟨hr, hq⟩
    refine ⟨hr, ?_⟩
    rintro ⟨-, hkept⟩
    rw [hq] at hkept
    cases hkept

/-- Tables that are the same but for rows of the four ledgers that are gone. -/
structure Tables.Shed (before after t t' : Tables) : Prop where
  sessions : Sheds (Gone before.sessions after.sessions) t.sessions t'.sessions
  emailTokens : Sheds (Gone before.emailTokens after.emailTokens) t.emailTokens t'.emailTokens
  oauthStates : Sheds (Gone before.oauthStates after.oauthStates) t.oauthStates t'.oauthStates
  passkeyChallenges :
    Sheds (Gone before.passkeyChallenges after.passkeyChallenges) t.passkeyChallenges
      t'.passkeyChallenges
  users : t'.users = t.users
  identityLinks : t'.identityLinks = t.identityLinks
  enrollments : t'.enrollments = t.enrollments
  wallets : t'.wallets = t.wallets
  passkeyCredentials : t'.passkeyCredentials = t.passkeyCredentials

/-- All that is gone is dead. -/
structure Tables.Dead (before after : Tables) (now : Int) : Prop where
  sessions : ∀ r, Gone before.sessions after.sessions r → r.isLive now = false
  emailTokens : ∀ r, Gone before.emailTokens after.emailTokens r → r.isLive now = false
  oauthStates : ∀ r, Gone before.oauthStates after.oauthStates r → r.isLive now = false
  passkeyChallenges :
    ∀ r, Gone before.passkeyChallenges after.passkeyChallenges r → r.isLive now = false

namespace Call

/-- A call that tells how much it removes. -/
def countsRemoved : Call → Bool
  | .sessions (.logOut _) | .sessions (.logOutUser _) | .sessions .purge => true
  | .emailTokens .purge | .oauthStates .purge | .passkeyChallenges .purge => true
  | .purgeExpired => true
  | _ => false

def Alike (c : Call) (a a' : Answer) : Prop := c.countsRemoved = true ∨ a = a'

/-- A create under keys that no row has that is gone, or another call. -/
def Spares (before after : Tables) : Call → Prop
  | .sessions (.create id _ hash _) =>
    ∀ r, Gone before.sessions after.sessions r → r.sessionId ≠ id ∧ r.tokenHash ≠ hash
  | .emailTokens (.create id _ hash _) =>
    ∀ r, Gone before.emailTokens after.emailTokens r → r.tokenId ≠ id ∧ r.tokenHash ≠ hash
  | .oauthStates (.create id _ _ _) =>
    ∀ r, Gone before.oauthStates after.oauthStates r → r.stateId ≠ id
  | .passkeyChallenges (.create id _ _ _ _ _) =>
    ∀ r, Gone before.passkeyChallenges after.passkeyChallenges r → r.challengeId ≠ id
  | _ => True

end Call

/-! ## Requests on the four ledgers -/

variable {ctx : Context} {before after : Tables}

theorem Sessions.agrees {rows rows' : List Session} (r : Request)
    (dead : ∀ s, Gone before.sessions after.sessions s → s.isLive ctx.clock = false)
    (spares : (Call.sessions r).Spares before after)
    (h : Sheds (Gone before.sessions after.sessions) rows rows') :
    Plan.Agrees (Sheds (Gone before.sessions after.sessions)) (Call.sessions r).Alike
      (Plan.effectOf (plan ctx r) rows) (Plan.effectOf (plan ctx r) rows') := by
  cases r with
  | create id user hash given =>
    refine Plan.agrees_transaction _ (Plan.agrees_insert h ?_ (Or.inr rfl))
    intro s hs
    simp [spares s hs]
  | find hash =>
    have same : find? hash ctx.clock rows' = find? hash ctx.clock rows :=
      h.find?_eq (Sheds.unseen_of_dead dead _)
    simp only [plan, Plan.effectOf_ok]
    refine Plan.agrees_transaction _ (.ok h (Or.inr ?_))
    rw [same]
  | logOut hash =>
    simp only [plan, Plan.effectOf_ok]
    exact Plan.agrees_update _ (h.remove _) (Or.inl rfl)
  | logOutUser user =>
    simp only [plan, Plan.effectOf_ok]
    exact Plan.agrees_update _ (h.remove _) (Or.inl rfl)
  | purge => exact Plan.agrees_update _ (h.remove _) (Or.inl rfl)

theorem EmailTokens.agrees {rows rows' : List EmailToken} (r : Request)
    (dead : ∀ s, Gone before.emailTokens after.emailTokens s → s.isLive ctx.clock = false)
    (spares : (Call.emailTokens r).Spares before after)
    (h : Sheds (Gone before.emailTokens after.emailTokens) rows rows') :
    Plan.Agrees (Sheds (Gone before.emailTokens after.emailTokens)) (Call.emailTokens r).Alike
      (Plan.effectOf (plan ctx r) rows) (Plan.effectOf (plan ctx r) rows') := by
  cases r with
  | create id user hash given =>
    refine Plan.agrees_transaction _ (Plan.agrees_insert h ?_ (Or.inr rfl))
    intro s hs
    simp [spares s hs]
  | consume hash =>
    -- a token that is gone is not live, so it is neither found nor marked
    have unseen := Sheds.unseen_of_dead dead (·.tokenHash == hash)
    refine Plan.agrees_update _ (h.change unseen _) (Or.inr ?_)
    simp only [consume, h.find?_eq unseen]
  | purge => exact Plan.agrees_update _ (h.remove _) (Or.inl rfl)

theorem OAuthStates.agrees {rows rows' : List OAuthState} (r : Request)
    (dead : ∀ s, Gone before.oauthStates after.oauthStates s → s.isLive ctx.clock = false)
    (spares : (Call.oauthStates r).Spares before after)
    (h : Sheds (Gone before.oauthStates after.oauthStates) rows rows') :
    Plan.Agrees (Sheds (Gone before.oauthStates after.oauthStates)) (Call.oauthStates r).Alike
      (Plan.effectOf (plan ctx r) rows) (Plan.effectOf (plan ctx r) rows') := by
  cases r with
  | create id provider uri given =>
    refine Plan.agrees_map _ fun p => ?_
    refine Plan.agrees_transaction _ (Plan.agrees_insert h ?_ (Or.inr rfl))
    intro s hs
    simp [spares s hs]
  | consume id =>
    refine Plan.agrees_update _ (h.remove _) (Or.inr ?_)
    simp only [consume, h.find?_eq (Sheds.unseen_of_dead dead (·.stateId == id))]
  | purge => exact Plan.agrees_update _ (h.remove _) (Or.inl rfl)

theorem PasskeyChallenges.agrees {rows rows' : List PasskeyChallenge} (r : Request)
    (dead : ∀ s, Gone before.passkeyChallenges after.passkeyChallenges s →
      s.isLive ctx.clock = false)
    (spares : (Call.passkeyChallenges r).Spares before after)
    (h : Sheds (Gone before.passkeyChallenges after.passkeyChallenges) rows rows') :
    Plan.Agrees (Sheds (Gone before.passkeyChallenges after.passkeyChallenges))
      (Call.passkeyChallenges r).Alike
      (Plan.effectOf (plan ctx r) rows) (Plan.effectOf (plan ctx r) rows') := by
  cases r with
  | create id challenge flow given user email =>
    refine Plan.agrees_map _ fun p => ?_
    refine Plan.agrees_transaction _ (Plan.agrees_insert h ?_ (Or.inr rfl))
    intro s hs
    simp [spares s hs]
  | consume id =>
    refine Plan.agrees_update _ (h.remove _) (Or.inr ?_)
    simp only [consume, h.find?_eq (Sheds.unseen_of_dead dead (·.challengeId == id))]
  | purge => exact Plan.agrees_update _ (h.remove _) (Or.inl rfl)

/-! ## Calls -/

namespace Tables

variable {t t' : Tables}

theorem Shed.refl (t : Tables) : Shed before after t t :=
  ⟨.refl _, .refl _, .refl _, .refl _, rfl, rfl, rfl, rfl, rfl⟩

/-- The purge itself sheds what is gone after it. -/
theorem shed_purge (now : Int) (t : Tables) : Shed t (t.purge now).1 t (t.purge now).1 :=
  ⟨.of_remove fun _ hr hdead => gone_of_remove.mpr ⟨hr, hdead⟩,
    .of_remove fun _ hr hdead => gone_of_remove.mpr ⟨hr, hdead⟩,
    .of_remove fun _ hr hdead => gone_of_remove.mpr ⟨hr, hdead⟩,
    .of_remove fun _ hr hdead => gone_of_remove.mpr ⟨hr, hdead⟩, rfl, rfl, rfl, rfl, rfl⟩

theorem dead_purge (now : Int) (t : Tables) : Dead t (t.purge now).1 now :=
  ⟨fun _ hr => by simpa using (gone_of_remove.mp hr).2,
    fun _ hr => by simpa using (gone_of_remove.mp hr).2,
    fun _ hr => by simpa using (gone_of_remove.mp hr).2,
    fun _ hr => by simpa using (gone_of_remove.mp hr).2⟩

/-- What is dead stays so while the clock does not go back. -/
theorem Dead.mono {now later : Int} (h : Dead before after now) (forward : now ≤ later) :
    Dead before after later := by
  refine ⟨?_, ?_, ?_, ?_⟩
  · intro r hr
    have dead := h.sessions r hr
    simp only [Session.isLive, decide_eq_false_iff_not] at dead ⊢
    omega
  · intro r hr
    have dead := h.emailTokens r hr
    simp only [EmailToken.isLive, Bool.and_eq_false_imp, decide_eq_false_iff_not] at dead ⊢
    intro unspent
    have expired := dead unspent
    omega
  · intro r hr
    have dead := h.oauthStates r hr
    simp only [OAuthState.isLive, decide_eq_false_iff_not] at dead ⊢
    omega
  · intro r hr
    have dead := h.passkeyChallenges r hr
    simp only [PasskeyChallenge.isLive, decide_eq_false_iff_not] at dead ⊢
    omega

theorem Shed.purge (h : Shed before after t t') (now : Int) :
    Shed before after (t.purge now).1 (t'.purge now).1 :=
  ⟨h.sessions.remove _, h.emailTokens.remove _, h.oauthStates.remove _,
    h.passkeyChallenges.remove _, h.users, h.identityLinks, h.enrollments, h.wallets,
    h.passkeyCredentials⟩

end Tables

namespace Call

open Tables

variable {t t' : Tables}

theorem agrees_of_shed {c : Call} (dead : Dead before after ctx.clock)
    (spares : c.Spares before after) (h : Shed before after t t') :
    Plan.Agrees (Shed before after) c.Alike (c.effect ctx t) (c.effect ctx t') := by
  cases c with
  | sessions r =>
    exact Plan.agrees_on (fun _ => rfl) (Sessions.agrees r dead.sessions spares h.sessions)
      fun _ _ rows => { h with sessions := rows }
  | emailTokens r =>
    exact Plan.agrees_on (fun _ => rfl) (EmailTokens.agrees r dead.emailTokens spares h.emailTokens)
      fun _ _ rows => { h with emailTokens := rows }
  | oauthStates r =>
    exact Plan.agrees_on (fun _ => rfl) (OAuthStates.agrees r dead.oauthStates spares h.oauthStates)
      fun _ _ rows => { h with oauthStates := rows }
  | passkeyChallenges r =>
    exact Plan.agrees_on (fun _ => rfl)
      (PasskeyChallenges.agrees r dead.passkeyChallenges spares h.passkeyChallenges)
      fun _ _ rows => { h with passkeyChallenges := rows }
  | accounts r =>
    refine Plan.agrees_on_same (fun _ => rfl) ?_ (fun _ => Or.inr rfl)
      fun _ => { h with users := rfl, enrollments := rfl }
    rw [h.users, h.enrollments]
  | identityLinks r =>
    exact Plan.agrees_on_same (fun _ => rfl) h.identityLinks (fun _ => Or.inr rfl)
      fun _ => { h with identityLinks := rfl }
  | enrollments r =>
    exact Plan.agrees_on_same (fun _ => rfl) h.enrollments (fun _ => Or.inr rfl)
      fun _ => { h with enrollments := rfl }
  | wallets r =>
    exact Plan.agrees_on_same (fun _ => rfl) h.wallets (fun _ => Or.inr rfl)
      fun _ => { h with wallets := rfl }
  | passkeyCredentials r =>
    exact Plan.agrees_on_same (fun _ => rfl) h.passkeyCredentials (fun _ => Or.inr rfl)
      fun _ => { h with passkeyCredentials := rfl }
  | purgeExpired => exact Plan.agrees_update _ (h.purge _) (Or.inl rfl)

/-- The tables that are left differ so again, and most callers cannot tell. -/
theorem make_of_shed {c : Call} (dead : Dead before after ctx.clock)
    (spares : c.Spares before after) (h : Shed before after t t') :
    Shed before after (c.make ctx t).1 (c.make ctx t').1 ∧
      (c.countsRemoved = false → (c.make ctx t').2 = (c.make ctx t).2) := by
  have agrees := agrees_of_shed dead spares h
  unfold make
  generalize c.effect ctx t = x, c.effect ctx t' = y at agrees
  cases agrees with
  | error f => exact ⟨h, fun _ => rfl⟩
  | ok tables answers =>
    refine ⟨tables, ?_⟩
    intro silent
    rcases answers with counts | same
    · rw [silent] at counts
      cases counts
    · rw [same]

end Call

end AccountPortal

import AccountPortal.Proofs.Integers
import AccountPortal.Proofs.Ledger.SingleUse
import AccountPortal.Proofs.Query.Unique
import AccountPortal.Proofs.Session.Validity

/-!
# Leases

A create of one of the four ledgers asks for a lease: a row that can be used until its expiry. The
expiry is the one that is given, or the clock and the lifetime of the ledger added without bounds;
the row is stored with exactly that expiry or, where it or the clock is no word, not at all:

    q.attempt conn c = if fitsWord e && fitsWord q.clock
      then (some (l.add e q.clock t), .ok (l.answer e))
      else (some t, .error .integerOutOfRange)                                   (effect_of_free)

Until some event ends the lease, whoever uses it at a time that is a word is answered with its worth
before the expiry, and with nothing from then on                                 (outcome_of_since).
-/

namespace AccountPortal

/-- What a create of the four ledgers asks for, but for the expiry. -/
inductive Lease where
  | session (sessionId userId tokenHash : String)
  | emailToken (tokenId userId tokenHash : String)
  | oauthState (stateId : String) (provider : Provider) (redirectUri : String)
  | passkeyChallenge (challengeId challenge : String) (flow : PasskeyFlow)
      (userId email : Option String)

/-- The lease that a call asks for, and the expiry that it gives; none if its words are unknown. -/
def Call.lease? : Call → Option (Lease × Option Int)
  | .sessions (.create id user hash given) => some (.session id user hash, given)
  | .emailTokens (.create id user hash given) => some (.emailToken id user hash, given)
  | .oauthStates (.create id provider uri given) =>
    (Choice.ofValue? provider).map fun p => (.oauthState id p uri, given)
  | .passkeyChallenges (.create id challenge flow given user email) =>
    (Choice.ofValue? flow).map fun f => (.passkeyChallenge id challenge f user email, given)
  | _ => none

namespace Lease

/-! ## What a lease comes to -/

def lifetime (settings : Settings) : Lease → Int
  | .session .. => settings.sessionTtl
  | .emailToken .. => settings.emailVerifyTtl
  | .oauthState .. => settings.oauthStateTtl
  | .passkeyChallenge .. => settings.passkeyChallengeTtl

/-- The tables with the row of the lease added. -/
def add (expiry created : Int) (t : Tables) : Lease → Tables
  | .session id user hash =>
    { t with sessions := t.sessions ++ [⟨id, user, hash, expiry, created⟩] }
  | .emailToken id user hash =>
    { t with emailTokens := t.emailTokens ++ [⟨id, user, hash, expiry, none, created⟩] }
  | .oauthState id provider uri =>
    { t with oauthStates := t.oauthStates ++ [⟨id, provider, uri, expiry, created⟩] }
  | .passkeyChallenge id challenge flow user email =>
    { t with
      passkeyChallenges :=
        t.passkeyChallenges ++ [⟨id, user, email, challenge, flow, expiry, created⟩] }

/-- What the create is answered: the expiry, on the record of a session. -/
def answer (expiry : Int) : Lease → Answer
  | .session id user _ => .record (some (.session id user expiry))
  | _ => .moment expiry

/-- The look-up of a session, or the consumer of anything else. -/
def use : Lease → Call
  | .session _ _ hash => .sessions (.find hash)
  | .emailToken _ _ hash => Ledger.emailTokens.consume hash
  | .oauthState id _ _ => Ledger.oauthStates.consume id
  | .passkeyChallenge id _ _ _ _ => Ledger.passkeyChallenges.consume id

/-- What is answered to who uses it in time. -/
def worth (expiry : Int) : Lease → Answer
  | .session id user _ => .record (some (.session id user expiry))
  | .emailToken _ user _ => .owner (some user)
  | .oauthState _ provider uri => .record (some (.oauthState provider uri))
  | .passkeyChallenge _ challenge flow user email =>
    .record (some (.passkeyChallenge user email challenge flow))

/-- What is answered to who comes too late. -/
def nothing : Lease → Answer
  | .emailToken .. => .owner none
  | _ => .record none

/-- The events that remove or consume the row: for a session a logout of its token or user, for the
others a consumer that is answered with something; for all a purge after the expiry, and dropping
the schema. -/
def Ends (expiry created : Int) (l : Lease) (e : Event) : Prop :=
  match l with
  | .session id user hash => Sessions.Closes ⟨id, user, hash, expiry, created⟩ e
  | .emailToken _ _ hash => Ledger.emailTokens.Ends ⟨hash, expiry, l.worth expiry⟩ e
  | .oauthState id _ _ => Ledger.oauthStates.Ends ⟨id, expiry, l.worth expiry⟩ e
  | .passkeyChallenge id _ _ _ _ => Ledger.passkeyChallenges.Ends ⟨id, expiry, l.worth expiry⟩ e

end Lease

/-! ## Creates -/

namespace Call

variable {ctx : Context} {t u : Tables} {a : Answer} {c : Call}

/-- A call that adds a row under a free key to one part of the tables. -/
theorem effect_of_insert {α : Type} {get : Tables → List α} {set : List α → Tables → Tables}
    {expiry : Int} {taken : α → Bool} {new : α} {f : Fault} {b : Answer}
    (h : c.plan ctx = (Except.ok (.transaction [expiry, ctx.clock] fun rows =>
      if rows.any taken then .error f else .ok (rows ++ [new], b))).map (Plan.on get set))
    (hset : ∀ t, set (get t) t = t) (free : ∀ r ∈ get t, taken r = false) :
    c.effect ctx t =
      if fitsWord expiry && fitsWord ctx.clock then .ok (set (get t ++ [new]) t, b)
      else .error .integerOutOfRange := by
  have unused : ¬ (get t).any taken = true := by
    rw [List.any_eq_true]
    rintro ⟨r, hr, htaken⟩
    rw [free r hr] at htaken
    cases htaken
  unfold effect
  rw [h, Plan.effectOf_on get set _ t hset, Plan.effectOf_ok, Plan.effect, List.all_cons,
    List.all_cons, List.all_nil, Bool.and_true, if_neg unused]
  split <;> rfl

theorem not_meetsKey_of_effect_ok {r : Tables × Answer} (h : c.effect ctx t = .ok r) :
    ¬ c.MeetsKey t := by
  intro met
  have collides := c.collides ctx
  unfold effect at h
  cases hplan : c.plan ctx with
  | error f =>
    rw [hplan] at h
    cases h
  | ok plan =>
    rw [hplan] at h collides
    cases plan with
    | answered b => exact collides t met
    | transaction integers body =>
      obtain ⟨-, hbody⟩ := Plan.effect_transaction_eq_ok_iff.mp h
      obtain ⟨entity, detail, htaken⟩ := (collides t).1 met
      rw [hbody] at htaken
      cases htaken

end Call

namespace Lease

variable {ctx : Context} {t u : Tables} {a : Answer} {c : Call} {l : Lease} {given : Option Int}
  {expiry : Int}

theorem plan_oauthState (ctx : Context) {provider : Value} {known : Provider}
    (hknown : Choice.ofValue? provider = some known) (id uri : String) (given : Option Int) :
    let expiry := ctx.expiry given ctx.settings.oauthStateTtl
    (Call.oauthStates (.create id provider uri given)).plan ctx =
      (Except.ok (.transaction [expiry, ctx.clock]
        (OAuthStates.insert ⟨id, known, uri, expiry, ctx.clock⟩))).map
          (Plan.on (·.oauthStates) fun rows t => { t with oauthStates := rows }) := by
  rw [Call.plan, OAuthStates.plan, Choice.coerce_eq_ok_iff.mpr hknown]
  rfl

theorem plan_passkeyChallenge (ctx : Context) {flow : Value} {known : PasskeyFlow}
    (hknown : Choice.ofValue? flow = some known) (id challenge : String) (given : Option Int)
    (user email : Option String) :
    let expiry := ctx.expiry given ctx.settings.passkeyChallengeTtl
    (Call.passkeyChallenges (.create id challenge flow given user email)).plan ctx =
      (Except.ok (.transaction [expiry, ctx.clock]
        (PasskeyChallenges.insert ⟨id, user, email, challenge, known, expiry, ctx.clock⟩))).map
          (Plan.on (·.passkeyChallenges) fun rows t => { t with passkeyChallenges := rows }) := by
  rw [Call.plan, PasskeyChallenges.plan, Choice.coerce_eq_ok_iff.mpr hknown]
  rfl

/-- Under a free key only the two integers decide. -/
theorem effect_of_free (hl : c.lease? = some (l, given)) (free : ¬ c.MeetsKey t)
    (hexpiry : expiry = given.getD (ctx.clock + l.lifetime ctx.settings)) :
    c.effect ctx t =
      if fitsWord expiry && fitsWord ctx.clock then
        .ok (l.add expiry ctx.clock t, l.answer expiry)
      else .error .integerOutOfRange := by
  subst hexpiry
  cases c with
  | sessions r =>
    cases r with
    | create id user hash expiry =>
      cases hl
      have planned : (Call.sessions (.create id user hash given)).plan ctx =
        (Sessions.plan ctx (.create id user hash given)).map
          (Plan.on (·.sessions) fun rows t => { t with sessions := rows }) := rfl
      refine Call.effect_of_insert planned (fun _ => rfl) fun r hr => Bool.eq_false_iff.mpr ?_
      exact fun taken => free ⟨r, hr, by simpa using taken⟩
    | _ => cases hl
  | emailTokens r =>
    cases r with
    | create id user hash expiry =>
      cases hl
      have planned : (Call.emailTokens (.create id user hash given)).plan ctx =
        (EmailTokens.plan ctx (.create id user hash given)).map
          (Plan.on (·.emailTokens) fun rows t => { t with emailTokens := rows }) := rfl
      refine Call.effect_of_insert planned (fun _ => rfl) fun r hr => Bool.eq_false_iff.mpr ?_
      exact fun taken => free ⟨r, hr, by simpa using taken⟩
    | _ => cases hl
  | oauthStates r =>
    cases r with
    | create id provider uri expiry =>
      obtain ⟨p, hp, heq⟩ := Option.map_eq_some_iff.mp hl
      cases heq
      refine Call.effect_of_insert (plan_oauthState ctx hp id uri given) (fun _ => rfl)
        fun r hr => Bool.eq_false_iff.mpr ?_
      exact fun taken => free ⟨r, hr, by simpa using taken⟩
    | _ => cases hl
  | passkeyChallenges r =>
    cases r with
    | create id challenge flow expiry user email =>
      obtain ⟨f, hf, heq⟩ := Option.map_eq_some_iff.mp hl
      cases heq
      refine Call.effect_of_insert (plan_passkeyChallenge ctx hf id challenge given user email)
        (fun _ => rfl) fun r hr => Bool.eq_false_iff.mpr ?_
      exact fun taken => free ⟨r, hr, by simpa using taken⟩
    | _ => cases hl
  | _ => cases hl

/-- A create that is answered is answered with the expiry. -/
theorem answer_of_effect (hl : c.lease? = some (l, given))
    (hexpiry : expiry = given.getD (ctx.clock + l.lifetime ctx.settings))
    (h : c.effect ctx t = .ok (u, a)) : a = l.answer expiry := by
  rw [effect_of_free hl (Call.not_meetsKey_of_effect_ok h) hexpiry] at h
  split at h <;> cases h
  rfl

end Lease

/-! ## Uses -/

variable {settings : Settings} {h : List Event} {q : Portal}

/-- A session that is open by the history is found until it expires. -/
theorem Sessions.outcome_of_since {s : Session} (course : Course settings (some .empty) h q.tables)
    (since : Since (Opens settings s) (Closes s) h) :
    (q.call (.sessions (.find s.tokenHash))).2.outcome =
      if fitsWord q.clock then
        .ok (if q.clock < s.expiresAt then .record (some s.record) else .record none)
      else .error .integerOutOfRange := by
  have there := ((holding settings).mem_heldIn_iff course s).mpr since
  have distinct := (holding settings).proper_heldIn course
  cases tables : q.tables with
  | none =>
    rw [tables] at there
    cases there
  | some t =>
    rw [tables] at there distinct
    have heffect : (Call.sessions (.find s.tokenHash)).effect q.context t =
        if fitsWord q.clock then
          .ok (t, .record ((find? s.tokenHash q.clock t.sessions).map Session.record))
        else .error .integerOutOfRange :=
      Call.effect_of_update q.context (.sessions (.find s.tokenHash)) rfl (fun _ => rfl) t
    split at heffect
    · next fits =>
      have found : find? s.tokenHash q.clock t.sessions =
          if q.clock < s.expiresAt then some s else none := Distinct.find?_own_hash distinct there
      rw [Portal.outcome_of_effect_ok tables heffect, if_pos fits, found]
      split <;> rfl
    · next unfit => rw [Portal.outcome_of_effect_error tables heffect, if_neg unfit]

/-- A voucher that is held by the history is worth its grant until it expires. -/
theorem Ledger.outcome_of_since (L : Ledger) (v : Voucher)
    (course : Course settings (some .empty) h q.tables)
    (since : Since (L.Issues v) (L.Ends v) h) :
    (q.call (L.consume v.key)).2.outcome =
      if fitsWord q.clock then .ok (if q.clock < v.expiry then v.grant else L.nothing)
      else .error .integerOutOfRange := by
  have held := ((L.follows_of_course course).mem_iff v).mpr since
  have distinct := (L.follows_of_course course).distinct
  cases tables : q.tables with
  | none =>
    rw [tables] at held
    cases held
  | some t =>
    rw [tables] at held distinct
    obtain ⟨u, heffect⟩ : ∃ u, (L.consume v.key).effect q.context t =
        if fitsWord q.clock then
          .ok (u, L.answer ((L.held t).find? (Voucher.redeemable v.key q.clock)))
        else .error .integerOutOfRange := L.consume_effect v.key q.context t
    split at heffect
    · next fits =>
      have found : (L.held t).find? (Voucher.redeemable v.key q.clock) =
          if q.clock < v.expiry then some v else none := Voucher.find?_own_key distinct held
      rw [Portal.outcome_of_effect_ok tables heffect, if_pos fits, found]
      split <;> rfl
    · next unfit => rw [Portal.outcome_of_effect_error tables heffect, if_neg unfit]

namespace Lease

variable {expiry created : Int} {c : Call} {l : Lease} {given : Option Int}

/-- The event that opens the session, or issues the voucher, of the lease. -/
def Starts (settings : Settings) (expiry created : Int) (l : Lease) (e : Event) : Prop :=
  match l with
  | .session id user hash => Sessions.Opens settings ⟨id, user, hash, expiry, created⟩ e
  | .emailToken _ _ hash => Ledger.emailTokens.Issues ⟨hash, expiry, l.worth expiry⟩ e
  | .oauthState id _ _ => Ledger.oauthStates.Issues ⟨id, expiry, l.worth expiry⟩ e
  | .passkeyChallenge id _ _ _ _ => Ledger.passkeyChallenges.Issues ⟨id, expiry, l.worth expiry⟩ e

theorem outcome_of_since (course : Course settings (some .empty) h q.tables)
    (since : Since (l.Starts settings expiry created) (l.Ends expiry created) h) :
    (q.call l.use).2.outcome =
      if fitsWord q.clock then .ok (if q.clock < expiry then l.worth expiry else l.nothing)
      else .error .integerOutOfRange := by
  cases l with
  | session id user hash =>
    exact Sessions.outcome_of_since (s := ⟨id, user, hash, expiry, created⟩) course since
  | emailToken id user hash =>
    exact Ledger.emailTokens.outcome_of_since ⟨hash, expiry, .owner (some user)⟩ course since
  | oauthState id provider uri =>
    exact Ledger.oauthStates.outcome_of_since
      ⟨id, expiry, .record (some (.oauthState provider uri))⟩ course since
  | passkeyChallenge id challenge flow user email =>
    exact Ledger.passkeyChallenges.outcome_of_since
      ⟨id, expiry, .record (some (.passkeyChallenge user email challenge flow))⟩ course since

/-- A create with the answer of the lease starts it. -/
theorem starts_of_create (hl : c.lease? = some (l, given))
    (hexpiry : expiry = given.getD (created + l.lifetime settings)) :
    l.Starts settings expiry created ⟨created, .call c (.ok (l.answer expiry))⟩ := by
  cases c with
  | sessions r =>
    cases r with
    | create id user hash =>
      cases hl
      exact ⟨given, _, rfl, hexpiry, rfl⟩
    | _ => cases hl
  | emailTokens r =>
    cases r with
    | create id user hash =>
      cases hl
      exact rfl
    | _ => cases hl
  | oauthStates r =>
    cases r with
    | create id provider uri =>
      obtain ⟨p, hp, heq⟩ := Option.map_eq_some_iff.mp hl
      cases heq
      exact congrArg (Option.map _) hp
    | _ => cases hl
  | passkeyChallenges r =>
    cases r with
    | create id challenge flow given user email =>
      obtain ⟨f, hf, heq⟩ := Option.map_eq_some_iff.mp hl
      cases heq
      exact congrArg (Option.map _) hf
    | _ => cases hl
  | _ => cases hl

/-- A lease that a create of the history took, and that no event ended since, is good until its
expiry. -/
theorem outcome_of_create {passed rest : List Event} {a : Answer}
    (course : Course settings (some .empty) h q.tables)
    (heq : h = passed ++ ⟨created, .call c (.ok a)⟩ :: rest) (hl : c.lease? = some (l, given))
    (hexpiry : expiry = given.getD (created + l.lifetime settings))
    (lasts : ∀ e ∈ rest, ¬ l.Ends expiry created e) :
    (q.call l.use).2.outcome =
      if fitsWord q.clock then .ok (if q.clock < expiry then l.worth expiry else l.nothing)
      else .error .integerOutOfRange := by
  obtain ⟨before, after, -, moves, -⟩ := course.middle heq
  have answered : a = l.answer expiry := by
    cases before with
    | none =>
      obtain ⟨provider, subject, rfl⟩ := Call.eq_find_of_answered (Event.moves_none moves).2
      cases hl
    | some t =>
      obtain ⟨u, -, heffect⟩ := Event.moves_ok moves
      exact answer_of_effect hl hexpiry heffect
  rw [answered] at heq
  exact outcome_of_since course ⟨passed, _, rest, heq, starts_of_create hl hexpiry, lasts⟩

end Lease

/-! ## After every run -/

/-- After every run all integers of all rows are words. A create of the four ledgers under a free
key stores and answers the expiry that is given, or the unbounded sum of the clock and the lifetime,
if that and the clock are words, and otherwise adds nothing. What it stored is good at every time
before that expiry and at none from then on, until an event removes or consumes it. -/
theorem no_integer_wraps (settings : Settings) (clock : Int) (steps : List Portal.Step) :
    let p := Portal.fresh settings clock
    let q := (p.run steps).1
    (∀ t, q.tables = some t → ∀ n, ∀ row ∈ t.contents n, ∀ name k, (name, Value.int k) ∈ row →
      -wordBound ≤ k ∧ k < wordBound) ∧
    (∀ t, q.tables = some t → ∀ conn c l given, c.lease? = some (l, given) → ¬ c.MeetsKey t →
      let expiry := given.getD (q.clock + l.lifetime settings)
      q.attempt conn c =
        if fitsWord expiry && fitsWord q.clock then
          (some (l.add expiry q.clock t), .ok (l.answer expiry))
        else (some t, .error .integerOutOfRange)) ∧
    ∀ passed created c a rest l given,
      p.history steps = passed ++ ⟨created, .call c (.ok a)⟩ :: rest →
      c.lease? = some (l, given) →
      let expiry := given.getD (created + l.lifetime settings)
      (∀ e ∈ rest, ¬ l.Ends expiry created e) →
      ∀ now, (({ q with clock := now } : Portal).call l.use).2.outcome =
        if fitsWord now then .ok (if now < expiry then l.worth expiry else l.nothing)
        else .error .integerOutOfRange := by
  intro p q
  have course : Course settings (some .empty) (p.history steps) q.tables := p.run_course steps
  refine ⟨?_, ?_, ?_⟩
  · intro t there n row hrow name k hk
    rw [there] at course
    exact (fitsWord_iff k).mp (fitsWord_of_course course n hrow hk)
  · intro t there conn c l given hl free expiry
    have hexpiry : expiry = given.getD (q.context.clock + l.lifetime q.context.settings) := by
      rw [show q.context.settings = settings from p.run_settings steps]
      rfl
    have heffect := Lease.effect_of_free hl free hexpiry
    split
    · next fits => exact Portal.attempt_eq_of_effect_ok there conn (heffect.trans (if_pos fits))
    · next unfit =>
      exact Portal.attempt_eq_of_effect_error there conn (heffect.trans (if_neg unfit))
  · intro passed created c a rest l given heq hl expiry lasts now
    exact Lease.outcome_of_create course heq hl rfl lasts

/-- A state that is created as late as its lifetime allows, and one that comes too late. -/
theorem state_good_until_last_word :
    let settings : Settings := { Settings.standard with oauthStateTtl := 5 }
    let create (id : String) : Call := .oauthStates (.create id (.text "google") "r" none)
    let consume : Call := Ledger.oauthStates.consume "s"
    let p := Portal.fresh settings 9223372036854775801
    let q := (p.run [.call (create "s"), .advance 4]).1
    let t : Tables := { Tables.empty with
      oauthStates := [⟨"s", .google, "r", 9223372036854775806, 9223372036854775801⟩] }
    q.tables = some t ∧
      (∀ row ∈ t.contents .oauthStates, ∀ name k, (name, Value.int k) ∈ row →
        -wordBound ≤ k ∧ k < wordBound) ∧
      q.attempt .fresh (create "x") = (some t, .error .integerOutOfRange) ∧
      (({ q with clock := 9223372036854775805 } : Portal).call consume).2.outcome =
        .ok (.record (some (.oauthState .google "r"))) ∧
      (({ q with clock := 9223372036854775806 } : Portal).call consume).2.outcome =
        .ok (.record none) := by
  intro settings create consume p q t
  have there : q.tables = some t := rfl
  obtain ⟨words, creates, uses⟩ :=
    no_integer_wraps settings 9223372036854775801 [.call (create "s"), .advance 4]
  have free : ¬ (create "x").MeetsKey t := by
    rintro ⟨r, hr, hkey⟩
    rw [List.mem_singleton.mp hr] at hkey
    revert hkey
    decide
  have good := uses [] 9223372036854775801 (create "s") (.moment 9223372036854775806) []
    (.oauthState "s" .google "r") none rfl rfl fun e he => absurd he List.not_mem_nil
  exact ⟨there, words t there .oauthStates,
    creates t there .fresh (create "x") (.oauthState "x" .google "r") none rfl free,
    good 9223372036854775805, good 9223372036854775806⟩

end AccountPortal

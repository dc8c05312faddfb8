import AccountPortal.Proofs.History
import AccountPortal.Proofs.Ledger.Voucher

/-!
# Three ledgers of vouchers

Email tokens that are not consumed, OAuth states and passkey challenges are held as vouchers. A
token is consumed by a mark and the others by removal, but on vouchers every event is one and the
same action or none, and what consuming answers is what the voucher is worth:

    e.Moves settings (some t) (some u) →
      Action.Does e.clock (L.action? e) (L.held t) (L.held u)                     (does_of_moves)
-/

namespace AccountPortal

open Voucher

inductive Ledger where
  | emailTokens
  | oauthStates
  | passkeyChallenges
  deriving DecidableEq

/-! ## Vouchers of rows -/

/-- The token is known by its hash and worth the id of its user. -/
def EmailToken.voucher (r : EmailToken) : Voucher :=
  ⟨r.tokenHash, r.expiresAt, .owner (some r.userId)⟩

def OAuthState.voucher (r : OAuthState) : Voucher :=
  ⟨r.stateId, r.expiresAt, .record (some r.record)⟩

def PasskeyChallenge.voucher (r : PasskeyChallenge) : Voucher :=
  ⟨r.challengeId, r.expiresAt, .record (some r.record)⟩

def EmailToken.unspent (r : EmailToken) : Bool := r.consumedAt.isNone

namespace Ledger

def held (t : Tables) : Ledger → List Voucher
  | .emailTokens => (t.emailTokens.filter EmailToken.unspent).map EmailToken.voucher
  | .oauthStates => t.oauthStates.map OAuthState.voucher
  | .passkeyChallenges => t.passkeyChallenges.map PasskeyChallenge.voucher

def consume (k : String) : Ledger → Call
  | .emailTokens => .emailTokens (.consume k)
  | .oauthStates => .oauthStates (.consume k)
  | .passkeyChallenges => .passkeyChallenges (.consume k)

/-- What consuming answers that finds nothing. -/
def nothing : Ledger → Answer
  | .emailTokens => .owner none
  | _ => .record none

def answer (L : Ledger) (found : Option Voucher) : Answer :=
  (found.map Voucher.grant).getD L.nothing

end Ledger

/-! ## Actions of requests -/

namespace EmailTokens

/-- What a request does that has this answer. -/
def Request.action? : Request → Answer → Option Action
  | .create _ user hash _, .moment expiry => some (.issue ⟨hash, expiry, .owner (some user)⟩)
  | .consume hash, .owner (some _) => some (.redeem hash)
  | .purge, _ => some .sweep
  | _, _ => none

end EmailTokens

namespace OAuthStates

def Request.action? : Request → Answer → Option Action
  | .create id provider uri _, .moment expiry =>
    (Choice.ofValue? provider).map fun p => .issue ⟨id, expiry, .record (some (.oauthState p uri))⟩
  | .consume id, .record (some _) => some (.redeem id)
  | .purge, _ => some .sweep
  | _, _ => none

end OAuthStates

namespace PasskeyChallenges

def Request.action? : Request → Answer → Option Action
  | .create id challenge flow _ user email, .moment expiry =>
    (Choice.ofValue? flow).map fun f =>
      .issue ⟨id, expiry, .record (some (.passkeyChallenge user email challenge f))⟩
  | .consume id, .record (some _) => some (.redeem id)
  | .purge, _ => some .sweep
  | _, _ => none

end PasskeyChallenges

/-- The action of an event on a ledger; a purge of all ledgers sweeps each. -/
def Ledger.action? (L : Ledger) (e : Event) : Option Action :=
  match L, e.deed with
  | .emailTokens, .call (.emailTokens r) (.ok a) => r.action? a
  | .oauthStates, .call (.oauthStates r) (.ok a) => r.action? a
  | .passkeyChallenges, .call (.passkeyChallenges r) (.ok a) => r.action? a
  | _, .call .purgeExpired (.ok _) => some .sweep
  | _, _ => none

/-! ## Actions on rows -/

section rows

variable {α : Type} {rows : List α} {voucher : α → Voucher} {live : α → Bool} {k : String}
  {now : Int}

theorem does_issue (voucher : α → Voucher) (new : α)
    (free : ∀ r ∈ rows, (voucher r).key ≠ (voucher new).key) :
    Action.Does now (some (.issue (voucher new))) (rows.map voucher)
      ((rows ++ [new]).map voucher) := by
  rw [List.map_append]
  refine .issue ?_
  intro v hv
  obtain ⟨r, hr, rfl⟩ := List.mem_map.mp hv
  exact free r hr

/-- Removing the live row of a key redeems its voucher. -/
theorem does_redeem (h : ∀ r ∈ rows, redeemable k now (voucher r) = live r) {r : α}
    (hr : rows.find? live = some r) :
    Action.Does now (some (.redeem k)) (rows.map voucher)
      ((Rows.remove live rows).map voucher) := by
  have hmem := List.mem_of_find?_eq_some hr
  rw [Rows.map_remove h]
  refine .redeem (List.any_eq_true.mpr ⟨voucher r, List.mem_map_of_mem hmem, ?_⟩)
  rw [h r hmem]
  exact List.find?_some hr

theorem does_sweep {dead : α → Bool} (h : ∀ r ∈ rows, expired now (voucher r) = dead r) :
    Action.Does now (some .sweep) (rows.map voucher) ((Rows.remove dead rows).map voucher) := by
  rw [Rows.map_remove h]
  exact .sweep _

theorem dead_of_find?_eq_none (h : rows.find? live = none) : ∀ r ∈ rows, live r = false := by
  intro r hr
  rw [Bool.eq_false_iff]
  exact List.find?_eq_none.mp h r hr

end rows

namespace OAuthStates

variable {ctx : Context} {rows rows' : List OAuthState} {a : Answer}

theorem does_of_effect (r : Request) (h : Plan.effectOf (plan ctx r) rows = .ok (rows', a)) :
    Action.Does ctx.clock (r.action? a) (rows.map OAuthState.voucher)
      (rows'.map OAuthState.voucher) := by
  cases r with
  | create id provider uri given =>
    simp only [plan, Choice.coerce] at h
    cases hp : (Choice.ofValue? provider : Option Provider) with
    | none =>
      rw [hp] at h
      cases h
    | some p =>
      rw [hp] at h
      obtain ⟨-, hinsert⟩ := Plan.effect_transaction_eq_ok_iff.mp h
      obtain ⟨free, rfl, rfl⟩ := Rows.eq_of_insert_ok hinsert
      simp only [Request.action?, hp]
      let new : OAuthState := ⟨id, p, uri, ctx.expiry given ctx.settings.oauthStateTtl, ctx.clock⟩
      exact does_issue OAuthState.voucher new fun r hr => beq_eq_false_iff_ne.mp (free r hr)
  | consume id =>
    obtain ⟨-, rfl, rfl⟩ := Plan.effect_update_eq_ok_iff.mp h
    simp only [consume]
    cases hfind : rows.find? fun r => r.stateId == id && r.isLive ctx.clock with
    | none =>
      rw [Rows.remove_eq_self (dead_of_find?_eq_none hfind)]
      exact .nothing _
    | some r => exact does_redeem (fun r _ => rfl) hfind
  | purge =>
    obtain ⟨-, rfl, rfl⟩ := Plan.effect_update_eq_ok_iff.mp h
    exact does_sweep fun r _ => rfl

end OAuthStates

namespace PasskeyChallenges

variable {ctx : Context} {rows rows' : List PasskeyChallenge} {a : Answer}

theorem does_of_effect (r : Request) (h : Plan.effectOf (plan ctx r) rows = .ok (rows', a)) :
    Action.Does ctx.clock (r.action? a) (rows.map PasskeyChallenge.voucher)
      (rows'.map PasskeyChallenge.voucher) := by
  cases r with
  | create id challenge flow given user email =>
    simp only [plan, Choice.coerce] at h
    cases hf : (Choice.ofValue? flow : Option PasskeyFlow) with
    | none =>
      rw [hf] at h
      cases h
    | some f =>
      rw [hf] at h
      obtain ⟨-, hinsert⟩ := Plan.effect_transaction_eq_ok_iff.mp h
      obtain ⟨free, rfl, rfl⟩ := Rows.eq_of_insert_ok hinsert
      simp only [Request.action?, hf]
      let new : PasskeyChallenge :=
        ⟨id, user, email, challenge, f, ctx.expiry given ctx.settings.passkeyChallengeTtl,
          ctx.clock⟩
      exact does_issue PasskeyChallenge.voucher new fun r hr => beq_eq_false_iff_ne.mp (free r hr)
  | consume id =>
    obtain ⟨-, rfl, rfl⟩ := Plan.effect_update_eq_ok_iff.mp h
    simp only [consume]
    cases hfind : rows.find? fun r => r.challengeId == id && r.isLive ctx.clock with
    | none =>
      rw [Rows.remove_eq_self (dead_of_find?_eq_none hfind)]
      exact .nothing _
    | some r => exact does_redeem (fun r _ => rfl) hfind
  | purge =>
    obtain ⟨-, rfl, rfl⟩ := Plan.effect_update_eq_ok_iff.mp h
    exact does_sweep fun r _ => rfl

end PasskeyChallenges

namespace EmailTokens

variable {ctx : Context} {rows rows' : List EmailToken} {a : Answer} {k : String} {now : Int}

/-- On a token that is not consumed the marks of life are those of its voucher. -/
theorem redeemable_voucher {r : EmailToken} (h : r.unspent = true) :
    redeemable k now r.voucher = (r.tokenHash == k && r.isLive now) := by
  have hu : r.consumedAt.isNone = true := h
  simp only [EmailToken.isLive, hu, Bool.true_and]
  rfl

theorem expired_voucher {r : EmailToken} (h : r.unspent = true) :
    expired now r.voucher = !r.isLive now := by
  have hu : r.consumedAt.isNone = true := h
  simp only [EmailToken.isLive, hu, Bool.true_and]
  rfl

/-- A live token is not consumed, so it is found among those that are not. -/
theorem find?_unspent (k : String) (now : Int) (rows : List EmailToken) :
    (rows.filter EmailToken.unspent).find? (fun r => r.tokenHash == k && r.isLive now) =
      rows.find? fun r => r.tokenHash == k && r.isLive now := by
  rw [List.find?_filter]
  apply List.find?_congr
  intro r _
  rw [Bool.eq_iff_iff]
  simp only [EmailToken.unspent, EmailToken.isLive, decide_eq_true_eq, Bool.and_eq_true]
  constructor
  · exact fun h => h.2
  · exact fun h => ⟨h.2.1, h⟩

theorem does_of_effect (r : Request) (h : Plan.effectOf (plan ctx r) rows = .ok (rows', a)) :
    Action.Does ctx.clock (r.action? a) ((rows.filter EmailToken.unspent).map EmailToken.voucher)
      ((rows'.filter EmailToken.unspent).map EmailToken.voucher) := by
  cases r with
  | create id user hash given =>
    obtain ⟨-, hinsert⟩ := Plan.effect_transaction_eq_ok_iff.mp h
    obtain ⟨free, rfl, rfl⟩ := Rows.eq_of_insert_ok hinsert
    rw [List.filter_append]
    let new : EmailToken :=
      ⟨id, user, hash, ctx.expiry given ctx.settings.emailVerifyTtl, none, ctx.clock⟩
    refine does_issue EmailToken.voucher new ?_
    intro r hr
    have unused := free r (List.mem_filter.mp hr).1
    exact beq_eq_false_iff_ne.mp (Bool.or_eq_false_iff.mp unused).2
  | consume hash =>
    obtain ⟨-, rfl, rfl⟩ := Plan.effect_update_eq_ok_iff.mp h
    simp only [consume]
    rw [Rows.filter_change_away fun r => rfl]
    cases hfind : rows.find? fun r => r.tokenHash == hash && r.isLive ctx.clock with
    | none =>
      rw [← find?_unspent] at hfind
      rw [Rows.remove_eq_self (dead_of_find?_eq_none hfind)]
      exact .nothing _
    | some r =>
      rw [← find?_unspent] at hfind
      exact does_redeem (fun r hr => redeemable_voucher (List.mem_filter.mp hr).2) hfind
  | purge =>
    obtain ⟨-, rfl, rfl⟩ := Plan.effect_update_eq_ok_iff.mp h
    simp only [purge, Rows.purge]
    rw [Rows.filter_remove]
    exact does_sweep fun r hr => expired_voucher (List.mem_filter.mp hr).2

end EmailTokens

/-! ## Events -/

namespace Ledger

variable {ctx : Context} {t u : Tables} {a : Answer} {c : Call}

theorem does_of_purgeExpired (L : Ledger) (h : Call.purgeExpired.effect ctx t = .ok (u, a)) :
    Action.Does ctx.clock (some .sweep) (L.held t) (L.held u) := by
  obtain ⟨-, rfl, -⟩ := Plan.effect_update_eq_ok_iff.mp h
  cases L with
  | emailTokens =>
    show Action.Does _ _ _
      ((List.filter _ (Rows.remove (fun r => !EmailToken.isLive ctx.clock r) _)).map _)
    rw [Rows.filter_remove]
    exact does_sweep fun r hr => EmailTokens.expired_voucher (List.mem_filter.mp hr).2
  | oauthStates => exact does_sweep fun r _ => rfl
  | passkeyChallenges => exact does_sweep fun r _ => rfl

/-- A request to a store whose tables the ledger is not kept in leaves it as it is. -/
theorem does_of_others {L : Ledger} {σ : Type} {get : Tables → σ} {set : σ → Tables → Tables}
    {planned : Except Fault (Plan σ)} {now : Int}
    (h : Plan.effectOf (planned.map (Plan.on get set)) t = .ok (u, a))
    (hset : ∀ t, set (get t) t = t) (hkeep : ∀ s t, L.held (set s t) = L.held t) :
    Action.Does now none (L.held t) (L.held u) :=
  .of_eq (Plan.keep_of_effectOf_on h hset (Ledger.held · L) hkeep)

theorem does_of_effect (L : Ledger) (h : c.effect ctx t = .ok (u, a)) :
    Action.Does ctx.clock (L.action? ⟨ctx.clock, .call c (.ok a)⟩) (L.held t) (L.held u) := by
  cases c with
  | purgeExpired =>
    have does := L.does_of_purgeExpired h
    cases L <;> exact does
  | emailTokens r =>
    cases L with
    | emailTokens =>
      obtain ⟨rows, hr, rfl⟩ := Plan.exists_of_effectOf_on h fun _ => rfl
      exact EmailTokens.does_of_effect r hr
    | oauthStates => exact does_of_others h (fun _ => rfl) fun _ _ => rfl
    | passkeyChallenges => exact does_of_others h (fun _ => rfl) fun _ _ => rfl
  | oauthStates r =>
    cases L with
    | oauthStates =>
      obtain ⟨rows, hr, rfl⟩ := Plan.exists_of_effectOf_on h fun _ => rfl
      exact OAuthStates.does_of_effect r hr
    | emailTokens => exact does_of_others h (fun _ => rfl) fun _ _ => rfl
    | passkeyChallenges => exact does_of_others h (fun _ => rfl) fun _ _ => rfl
  | passkeyChallenges r =>
    cases L with
    | passkeyChallenges =>
      obtain ⟨rows, hr, rfl⟩ := Plan.exists_of_effectOf_on h fun _ => rfl
      exact PasskeyChallenges.does_of_effect r hr
    | emailTokens => exact does_of_others h (fun _ => rfl) fun _ _ => rfl
    | oauthStates => exact does_of_others h (fun _ => rfl) fun _ _ => rfl
  | _ => cases L <;> exact does_of_others h (fun _ => rfl) fun _ _ => rfl

theorem does_of_moves (L : Ledger) {settings : Settings} {e : Event}
    (h : e.Moves settings (some t) (some u)) :
    Action.Does e.clock (L.action? e) (L.held t) (L.held u) := by
  obtain ⟨now, deed⟩ := e
  cases deed with
  | migrate =>
    cases h
    cases L <;> exact .nothing _
  | dropSchema => cases h
  | call c out =>
    cases out with
    | error f =>
      have same := Event.moves_error h
      cases same
      cases L <;> cases c <;> exact .nothing _
    | ok a =>
      obtain ⟨v, hv, he⟩ := Event.moves_ok h
      cases hv
      exact L.does_of_effect he

/-! ## Consuming -/

theorem answer_emailTokens (k : String) (now : Int) (rows : List EmailToken) :
    (EmailTokens.consume k now rows).2 = Ledger.emailTokens.answer
      (((rows.filter EmailToken.unspent).map EmailToken.voucher).find? (redeemable k now)) := by
  rw [Rows.find?_map fun r hr => EmailTokens.redeemable_voucher (List.mem_filter.mp hr).2,
    EmailTokens.find?_unspent]
  show Answer.owner ((rows.find? fun r => r.tokenHash == k && r.isLive now).map _) = _
  cases rows.find? fun r => r.tokenHash == k && r.isLive now <;> rfl

theorem answer_oauthStates (k : String) (now : Int) (rows : List OAuthState) :
    (OAuthStates.consume k now rows).2 = Ledger.oauthStates.answer
      ((rows.map OAuthState.voucher).find? (redeemable k now)) := by
  rw [Rows.find?_map (p := fun r => r.stateId == k && r.isLive now) fun r _ => rfl]
  show Answer.record ((rows.find? fun r => r.stateId == k && r.isLive now).map _) = _
  cases rows.find? fun r => r.stateId == k && r.isLive now <;> rfl

theorem answer_passkeyChallenges (k : String) (now : Int) (rows : List PasskeyChallenge) :
    (PasskeyChallenges.consume k now rows).2 = Ledger.passkeyChallenges.answer
      ((rows.map PasskeyChallenge.voucher).find? (redeemable k now)) := by
  rw [Rows.find?_map (p := fun r => r.challengeId == k && r.isLive now) fun r _ => rfl]
  show Answer.record ((rows.find? fun r => r.challengeId == k && r.isLive now).map _) = _
  cases rows.find? fun r => r.challengeId == k && r.isLive now <;> rfl

/-- Consuming answers with what the live voucher of the key is worth. -/
theorem consume_effect (L : Ledger) (k : String) (ctx : Context) (t : Tables) :
    ∃ u, (L.consume k).effect ctx t =
      if fitsWord ctx.clock then .ok (u, L.answer ((L.held t).find? (redeemable k ctx.clock)))
      else .error .integerOutOfRange := by
  cases L with
  | emailTokens =>
    have made := Call.effect_of_update ctx (.emailTokens (.consume k)) rfl (fun _ => rfl) t
    rw [answer_emailTokens] at made
    exact ⟨_, made⟩
  | oauthStates =>
    have made := Call.effect_of_update ctx (.oauthStates (.consume k)) rfl (fun _ => rfl) t
    rw [answer_oauthStates] at made
    exact ⟨_, made⟩
  | passkeyChallenges =>
    have made := Call.effect_of_update ctx (.passkeyChallenges (.consume k)) rfl (fun _ => rfl) t
    rw [answer_passkeyChallenges] at made
    exact ⟨_, made⟩

theorem consume_of_fits (L : Ledger) (k : String) (ctx : Context) (t : Tables)
    (fits : fitsWord ctx.clock = true) :
    ∃ u, (L.consume k).effect ctx t =
      .ok (u, L.answer ((L.held t).find? (redeemable k ctx.clock))) := by
  obtain ⟨u, heffect⟩ := L.consume_effect k ctx t
  rw [if_pos fits] at heffect
  exact ⟨u, heffect⟩

/-- A consumer who finds no live row leaves the rows alone. -/
theorem rows_of_loss {α : Type} {rows rows' : List α} {live : α → Bool} {g : Option α → Answer}
    (loss : (g (rows.find? live)).isLoss = true) (hwin : ∀ r, (g (some r)).isLoss = false)
    (hsame : (∀ r ∈ rows, live r = false) → rows' = rows) : rows' = rows := by
  cases hfind : rows.find? live with
  | none => exact hsame (dead_of_find?_eq_none hfind)
  | some r =>
    rw [hfind, hwin] at loss
    cases loss

/-- Who is answered with nothing has taken nothing. -/
theorem eq_of_loss (L : Ledger) {k : String} (h : (L.consume k).effect ctx t = .ok (u, a))
    (loss : a.isLoss = true) : u = t := by
  cases L with
  | emailTokens =>
    rw [consume, Call.effect_of_update ctx (.emailTokens (.consume k)) rfl (fun _ => rfl) t] at h
    split at h
    · cases h
      have same : (EmailTokens.consume k ctx.clock t.emailTokens).1 = t.emailTokens :=
        rows_of_loss (g := fun r => .owner (r.map EmailToken.userId)) loss (fun _ => rfl)
          Rows.change_eq_self
      rw [same]
    · cases h
  | oauthStates =>
    rw [consume, Call.effect_of_update ctx (.oauthStates (.consume k)) rfl (fun _ => rfl) t] at h
    split at h
    · cases h
      have same : (OAuthStates.consume k ctx.clock t.oauthStates).1 = t.oauthStates :=
        rows_of_loss (g := fun r => .record (r.map OAuthState.record)) loss (fun _ => rfl)
          Rows.remove_eq_self
      rw [same]
    · cases h
  | passkeyChallenges =>
    rw [consume, Call.effect_of_update ctx (.passkeyChallenges (.consume k)) rfl (fun _ => rfl) t]
      at h
    split at h
    · cases h
      have same : (PasskeyChallenges.consume k ctx.clock t.passkeyChallenges).1 =
          t.passkeyChallenges :=
        rows_of_loss (g := fun r => .record (r.map PasskeyChallenge.record)) loss
          (fun _ => rfl) Rows.remove_eq_self
      rw [same]
    · cases h

/-- Nothing is no voucher's worth. -/
theorem isLoss_grant (L : Ledger) {v : Voucher} (hv : v ∈ L.held t) : v.grant.isLoss = false := by
  cases L <;> obtain ⟨r, -, rfl⟩ := List.mem_map.mp hv <;> rfl

theorem isLoss_nothing (L : Ledger) : L.nothing.isLoss = true := by
  cases L <;> rfl

/-- Who is answered with something held the key of a live voucher that is worth it. -/
theorem wins_iff (L : Ledger) {k : String} (h : (L.consume k).effect ctx t = .ok (u, a))
    (distinct : Distinct (L.held t)) (b : Answer) :
    a = b ∧ b.isLoss = false ↔
      ∃ v ∈ L.held t, v.key = k ∧ ctx.clock < v.expiry ∧ v.grant = b := by
  obtain ⟨w, heffect⟩ := L.consume_effect k ctx t
  rw [heffect] at h
  split at h
  · cases h
    constructor
    · rintro ⟨rfl, hwin⟩
      cases hfind : (L.held t).find? (redeemable k ctx.clock) with
      | none =>
        rw [hfind] at hwin
        have hloss : (L.answer none).isLoss = true := L.isLoss_nothing
        rw [hloss] at hwin
        cases hwin
      | some v =>
        obtain ⟨hv, hlive⟩ := (find?_eq_some_iff distinct v).mp hfind
        exact ⟨v, hv, hlive.1, hlive.2, rfl⟩
    · rintro ⟨v, hv, hkey, hlive, rfl⟩
      rw [(find?_eq_some_iff distinct v).mpr ⟨hv, hkey, hlive⟩]
      exact ⟨rfl, L.isLoss_grant hv⟩
  · cases h

end Ledger

end AccountPortal

import AccountPortal.Proofs.Ledger.SingleUse
import AccountPortal.Proofs.Repetition.Calls

/-!
# Races

The callers of a race make one call one after another, so the first comes out as the call does and
all the others as the call does when it is made again:

    p.raced (n + 1) c = first :: List.replicate n again                               (race_succ)

Hence a race has one winner where the call succeeds once: who consumes what is live, who creates
under free keys, who creates the wallet of a new user.
-/

namespace AccountPortal

namespace Portal

variable {p q : Portal} {c : Call} {t : Tables} {a b : Answer} {f : Fault}

/-- What the callers of a race come out with, in order. -/
def raced (p : Portal) (n : Nat) (c : Call) : List (Except Fault Answer) :=
  (p.race n c).2.map (·.outcome)

/-! ## Callers -/

theorem length_callers (p : Portal) (c : Call) (n : Nat) (used : List Connection) :
    (p.callers c n used).2.length = n := by
  induction n generalizing p used with
  | zero => rfl
  | succ n ih =>
    obtain ⟨conn, idle, rest, heq⟩ := p.callers_succ c n used
    rw [heq, List.length_cons, ih]

/-- Callers that leave the tables alone all find what the first of them finds. -/
theorem callers_steady {O : Except Fault Answer → Prop}
    (steady : ∀ q, p.Like q → ∀ conn, (q.attempt conn c).1 = q.tables ∧ O (q.attempt conn c).2)
    (n : Nat) (used : List Connection) (like : p.Like q) :
    p.Like (q.callers c n used).1 ∧ ∀ r ∈ (q.callers c n used).2, O r.outcome := by
  induction n generalizing q used with
  | zero =>
    refine ⟨⟨like.settings, like.clock, like.tables⟩, ?_⟩
    intro r hr
    cases hr
  | succ n ih =>
    obtain ⟨conn, idle, rest, heq⟩ := q.callers_succ c n used
    obtain ⟨same, hout⟩ := steady q like conn
    obtain ⟨hlast, houts⟩ := ih
      (q := { q with tables := (q.attempt conn c).1, connections := idle })
      rest ⟨like.settings, like.clock, same.trans like.tables⟩
    rw [heq]
    refine ⟨hlast, ?_⟩
    intro r hr
    rcases List.mem_cons.mp hr with rfl | hr
    · exact hout
    · exact houts r hr

/-- The first caller makes the call, and the others make it again. -/
theorem race_succ (h : p.tables = some t) (c : Call) (n : Nat) :
    (p.race (n + 1) c).1.tables = some (c.make p.context t).1 ∧
      p.raced (n + 1) c = (c.make p.context t).2 ::
        List.replicate n (c.make p.context (c.make p.context t).1).2 := by
  obtain ⟨conn, idle, rest, heq⟩ := p.callers_succ c n []
  let first : Portal := { p with tables := (p.attempt conn c).1, connections := idle }
  have there : first.tables = some (c.make p.context t).1 :=
    congrArg Prod.fst (attempt_some h conn c)
  have steady : ∀ q, first.Like q → ∀ conn, (q.attempt conn c).1 = q.tables ∧
      (q.attempt conn c).2 = (c.make p.context (c.make p.context t).1).2 := by
    intro q like conn
    have hctx : q.context = p.context := like.context
    have hq := like.tables.trans there
    rw [attempt_some hq, hctx, hq]
    exact ⟨congrArg some (c.make_make p.context t), rfl⟩
  obtain ⟨hlast, houts⟩ := callers_steady (O := (· = _)) steady n rest (Like.refl first)
  unfold raced race
  rw [heq]
  refine ⟨hlast.tables.trans there, ?_⟩
  rw [List.map_cons]
  have houtcome : (p.attempt conn c).2 = (c.make p.context t).2 := by rw [attempt_some h conn c]
  have others : (first.callers c n rest).2.map (·.outcome) =
      List.replicate n (c.make p.context (c.make p.context t).1).2 := by
    rw [List.eq_replicate_iff]
    refine ⟨by rw [List.length_map, length_callers], ?_⟩
    intro o ho
    obtain ⟨r, hr, rfl⟩ := List.mem_map.mp ho
    exact houts r hr
  show (p.attempt conn c).2 :: (first.callers c n rest).2.map (·.outcome) = _
  rw [houtcome, others]

/-! ## Winners -/

theorem counts_of_losses (ha : a.isLoss = false) (hb : b.isLoss = true) (n : Nat) :
    wins (.ok a :: List.replicate n (.ok b)) = [a] ∧
      losses (.ok a :: List.replicate n (.ok b)) = n ∧
      faults (.ok a :: List.replicate n (.ok b)) = [] := by
  unfold wins losses faults
  refine ⟨?_, ?_, ?_⟩
  · rw [List.filterMap_cons_some (b := a) (by simp [ha]),
      List.filterMap_replicate_of_none (by simp [hb])]
  · rw [List.countP_cons_of_neg (by simp [ha]), List.countP_replicate, if_pos hb]
  · rw [List.filterMap_cons_none rfl, List.filterMap_replicate_of_none rfl]

theorem counts_of_faults (ha : a.isLoss = false) (f : Fault) (n : Nat) :
    wins (.ok a :: List.replicate n (.error f)) = [a] ∧
      losses (.ok a :: List.replicate n (.error f)) = 0 ∧
      faults (.ok a :: List.replicate n (.error f)) = List.replicate n f := by
  unfold wins losses faults
  refine ⟨?_, ?_, ?_⟩
  · rw [List.filterMap_cons_some (b := a) (by simp [ha]), List.filterMap_replicate_of_none rfl]
  · rw [List.countP_cons_of_neg (by simp [ha]), List.countP_replicate, if_neg (by simp)]
  · rw [List.filterMap_cons_none rfl]
    exact List.filterMap_replicate_of_some rfl

/-! ## Consumers -/

open Voucher

variable {L : Ledger} {k : String} {n : Nat}

/-- Redeeming a key leaves nothing to be redeemed by it. -/
theorem find?_after_redeem {now : Int} {held held' : List Voucher}
    (does : Action.Does now (some (.redeem k)) held held') :
    held'.find? (redeemable k now) = none := by
  cases does with
  | redeem live =>
    rw [List.find?_eq_none]
    intro v hv
    rw [Bool.not_eq_true]
    exact (Rows.mem_remove.mp hv).2

theorem action?_grant (L : Ledger) (k : String) {v : Voucher} (hv : v ∈ L.held t) (now : Int) :
    L.action? ⟨now, .call (L.consume k) (.ok v.grant)⟩ = some (.redeem k) := by
  cases L <;> obtain ⟨r, -, rfl⟩ := List.mem_map.mp hv <;> rfl

/-- Of all who consume what is live one gets it, and the others get nothing. -/
theorem race_consume (h : p.tables = some t) (fits : fitsWord p.clock = true) {v : Voucher}
    (hv : v ∈ L.held t) (hlive : v.key = k ∧ p.clock < v.expiry) (n : Nat) :
    ∃ a, wins (p.raced (n + 1) (L.consume k)) = [a] ∧
      losses (p.raced (n + 1) (L.consume k)) = n ∧ faults (p.raced (n + 1) (L.consume k)) = [] := by
  obtain ⟨u, first⟩ := L.consume_of_fits k p.context t fits
  cases hfind : (L.held t).find? (redeemable k p.context.clock) with
  | none => exact absurd (redeemable_iff.mpr hlive) (List.find?_eq_none.mp hfind v hv)
  | some w =>
    rw [hfind] at first
    have hw := List.mem_of_find?_eq_some hfind
    have does := L.does_of_effect first
    rw [show L.answer (some w) = w.grant from rfl, action?_grant L k hw] at does
    obtain ⟨u', second⟩ := L.consume_of_fits k p.context u fits
    rw [find?_after_redeem does] at second
    rw [(race_succ h (L.consume k) n).2, Call.make_of_ok first, Call.make_of_ok second]
    exact ⟨w.grant, counts_of_losses (L.isLoss_grant hw) L.isLoss_nothing n⟩

/-- A consumer who finds no live voucher of the key gets nothing, and takes nothing. -/
theorem attempt_consume_dead
    (dead : ∀ v ∈ L.heldIn p.tables, ¬ (v.key = k ∧ p.clock < v.expiry)) (conn : Connection) :
    (p.attempt conn (L.consume k)).1 = p.tables ∧
      ∀ a, (p.attempt conn (L.consume k)).2 = .ok a → a.isLoss = true := by
  have moves := p.attempt_moves conn (L.consume k)
  have hloss : ∀ a, (p.attempt conn (L.consume k)).2 = .ok a → a.isLoss = true := by
    intro a ha
    rw [ha] at moves
    obtain ⟨t, u, ht, -, heffect⟩ := L.exists_of_answered moves
    rw [ht] at dead
    have lost : (L.held t).find? (redeemable k p.clock) = none := by
      rw [List.find?_eq_none]
      intro v hv hredeem
      exact dead v hv (redeemable_iff.mp hredeem)
    obtain ⟨w, answered⟩ := L.consume_effect k ⟨p.settings, p.clock⟩ t
    rw [answered, lost] at heffect
    split at heffect
    · cases heffect
      exact L.isLoss_nothing
    · cases heffect
  refine ⟨?_, hloss⟩
  cases hout : (p.attempt conn (L.consume k)).2 with
  | error f =>
    rw [hout] at moves
    exact Event.moves_error moves
  | ok a =>
    rw [hout] at moves
    exact L.tables_of_loss moves (hloss a hout)

/-- Nobody gets what is dead or unknown. -/
theorem race_consume_dead
    (dead : ∀ v ∈ L.heldIn p.tables, ¬ (v.key = k ∧ p.clock < v.expiry)) (n : Nat) :
    wins (p.raced n (L.consume k)) = [] := by
  have steady : ∀ q, p.Like q → ∀ conn, (q.attempt conn (L.consume k)).1 = q.tables ∧
      ∀ a, (q.attempt conn (L.consume k)).2 = .ok a → a.isLoss = true := by
    intro q like conn
    rw [← like.tables, ← like.clock] at dead
    exact attempt_consume_dead dead conn
  obtain ⟨-, houts⟩ := callers_steady (O := fun o => ∀ a, o = .ok a → a.isLoss = true) steady n []
    (Like.refl p)
  unfold wins
  rw [List.filterMap_eq_nil_iff]
  intro o ho
  obtain ⟨r, hr, rfl⟩ := List.mem_map.mp ho
  have hloss := houts r hr
  cases hout : r.outcome with
  | error f => rfl
  | ok a => simp [hloss a hout]

/-! ## Creates -/

end Portal

namespace Plan

variable {σ τ α : Type}

/-- A plan that succeeds, and meets a key in use when it is carried out again. -/
def CreatesOnce (plan : Plan σ) (s : σ) : Prop :=
  ∃ s' a entity detail, plan.effect s = .ok (s', a) ∧ a.isLoss = false ∧
    plan.effect s' = .error (.taken entity detail)

theorem createsOnce_insert {integers : List Int} {taken : α → Bool} {rows : List α} {new : α}
    {entity detail : String} {b : Answer} (fits : integers.all fitsWord = true)
    (free : ∀ r ∈ rows, taken r = false) (hnew : taken new = true) (hb : b.isLoss = false) :
    CreatesOnce (.transaction integers fun rows =>
      if rows.any taken then .error (.taken entity detail) else .ok (rows ++ [new], b)) rows := by
  have unused : ¬ rows.any taken = true := by
    rw [List.any_eq_true]
    rintro ⟨r, hr, htaken⟩
    rw [free r hr] at htaken
    cases htaken
  refine ⟨rows ++ [new], b, entity, detail, ?_, hb, ?_⟩
  · show (if integers.all fitsWord then _ else _) = _
    rw [if_pos fits, if_neg unused]
  · show (if integers.all fitsWord then _ else _) = _
    rw [if_pos fits, if_pos (by simp [hnew])]

theorem createsOnce_on {get : τ → σ} {set : σ → τ → τ} {plan : Plan σ} {t : τ}
    (h : CreatesOnce plan (get t)) (hkeep : ∀ t, set (get t) t = t)
    (hget : ∀ s t, get (set s t) = s) : CreatesOnce (plan.on get set) t := by
  obtain ⟨s', a, entity, detail, first, ha, second⟩ := h
  refine ⟨set s' t, a, entity, detail, ?_, ha, ?_⟩
  · rw [effect_on get set plan t hkeep, first]
    rfl
  · rw [effect_on get set plan _ hkeep, hget, second]
    rfl

end Plan

namespace Call

variable {ctx : Context} {c : Call} {t : Tables}

/-- A call that is not refused and whose integers are in range. -/
def Valid (ctx : Context) (c : Call) : Prop :=
  (∃ plan, c.plan ctx = .ok plan) ∧ (c.integers ctx).all fitsWord = true

/-- A create that finds all its keys free. -/
def FindsFree (t : Tables) : Call → Prop
  | .accounts (.create id email _ _ _) =>
    ∀ u ∈ t.users, u.userId ≠ id ∧ u.email ≠ normalizeEmail email
  | .sessions (.create id _ hash _) => ∀ r ∈ t.sessions, r.sessionId ≠ id ∧ r.tokenHash ≠ hash
  | .emailTokens (.create id _ hash _) => ∀ r ∈ t.emailTokens, r.tokenId ≠ id ∧ r.tokenHash ≠ hash
  | .oauthStates (.create id _ _ _) => ∀ r ∈ t.oauthStates, r.stateId ≠ id
  | .passkeyChallenges (.create id _ _ _ _ _) => ∀ r ∈ t.passkeyChallenges, r.challengeId ≠ id
  | _ => False

theorem createsOnce (valid : c.Valid ctx) (free : c.FindsFree t) :
    ∃ plan, c.plan ctx = .ok plan ∧ plan.CreatesOnce t := by
  obtain ⟨⟨plan, hplan⟩, fits⟩ := valid
  unfold FindsFree at free
  split at free
  · next id email hash name verified =>
    refine ⟨_, rfl, Plan.createsOnce_on ?_ (fun _ => rfl) fun _ _ => rfl⟩
    refine Plan.createsOnce_on ?_ (fun _ => rfl) fun _ _ => rfl
    refine Plan.createsOnce_insert fits ?_ (by simp) rfl
    intro u hu
    exact Bool.or_eq_false_iff.mpr
      ⟨beq_eq_false_iff_ne.mpr (free u hu).1, beq_eq_false_iff_ne.mpr (free u hu).2⟩
  · next id user hash given =>
    refine ⟨_, rfl, Plan.createsOnce_on ?_ (fun _ => rfl) fun _ _ => rfl⟩
    refine Plan.createsOnce_insert fits ?_ (by simp) rfl
    intro r hr
    exact Bool.or_eq_false_iff.mpr
      ⟨beq_eq_false_iff_ne.mpr (free r hr).1, beq_eq_false_iff_ne.mpr (free r hr).2⟩
  · next id user hash given =>
    refine ⟨_, rfl, Plan.createsOnce_on ?_ (fun _ => rfl) fun _ _ => rfl⟩
    refine Plan.createsOnce_insert fits ?_ (by simp) rfl
    intro r hr
    exact Bool.or_eq_false_iff.mpr
      ⟨beq_eq_false_iff_ne.mpr (free r hr).1, beq_eq_false_iff_ne.mpr (free r hr).2⟩
  · next id provider uri given =>
    obtain ⟨planned, hplanned, rfl⟩ := Except.map_eq_ok_iff.mp hplan
    obtain ⟨p, -, rfl⟩ := Except.map_eq_ok_iff.mp hplanned
    unfold integers at fits
    rw [hplan] at fits
    refine ⟨_, hplan, Plan.createsOnce_on ?_ (fun _ => rfl) fun _ _ => rfl⟩
    refine Plan.createsOnce_insert fits ?_ (by simp) rfl
    exact fun r hr => beq_eq_false_iff_ne.mpr (free r hr)
  · next id challenge flow given user email =>
    obtain ⟨planned, hplanned, rfl⟩ := Except.map_eq_ok_iff.mp hplan
    obtain ⟨f, -, rfl⟩ := Except.map_eq_ok_iff.mp hplanned
    unfold integers at fits
    rw [hplan] at fits
    refine ⟨_, hplan, Plan.createsOnce_on ?_ (fun _ => rfl) fun _ _ => rfl⟩
    refine Plan.createsOnce_insert fits ?_ (by simp) rfl
    exact fun r hr => beq_eq_false_iff_ne.mpr (free r hr)
  · cases free

end Call

namespace Portal

variable {p : Portal} {c : Call} {t : Tables} {n : Nat}

/-- Of all who create under free keys one succeeds, and the others meet the keys in use. -/
theorem race_create (h : p.tables = some t) (valid : c.Valid p.context) (free : c.FindsFree t)
    (n : Nat) : ∃ a entity detail, wins (p.raced (n + 1) c) = [a] ∧
      losses (p.raced (n + 1) c) = 0 ∧
      faults (p.raced (n + 1) c) = List.replicate n (.taken entity detail) := by
  obtain ⟨plan, hplan, u, a, entity, detail, first, ha, second⟩ := Call.createsOnce valid free
  have first' : c.effect p.context t = .ok (u, a) := by
    unfold Call.effect
    rw [hplan]
    exact first
  have second' : c.effect p.context u = .error (.taken entity detail) := by
    unfold Call.effect
    rw [hplan]
    exact second
  rw [(race_succ h c n).2, Call.make_of_ok first', Call.make_of_error second']
  exact ⟨a, entity, detail, counts_of_faults ha _ n⟩

/-- Of all who create the wallet of a new user one does. -/
theorem race_wallet (h : p.tables = some t) (fits : fitsWord p.clock = true) {user : String}
    (unknown : ∀ w ∈ t.wallets, w.userId ≠ user) (account seed key : String)
    (network : Option String) (n : Nat) :
    p.raced (n + 1) (.wallets (.create user account seed key network)) =
      .ok (.flag true) :: List.replicate n (.ok (.flag false)) := by
  let new : Wallet :=
    ⟨user, account, Wallets.networkOf p.settings network, seed, key, p.clock, none⟩
  let c : Call := .wallets (.create user account seed key network)
  have made : ∀ t : Tables, c.effect p.context t =
      .ok ({ t with wallets := (Wallets.insert new t.wallets).1 },
        (Wallets.insert new t.wallets).2) := by
    intro t
    exact (Call.effect_of_update p.context c rfl (fun _ => rfl) t).trans (if_pos fits)
  have absent : ¬ t.wallets.any (·.userId == user) = true := by
    rw [List.any_eq_true]
    rintro ⟨w, hw, huser⟩
    exact unknown w hw (beq_iff_eq.mp huser)
  have first : Wallets.insert new t.wallets = (t.wallets ++ [new], .flag true) := if_neg absent
  have second : Wallets.insert new (t.wallets ++ [new]) = (t.wallets ++ [new], .flag false) :=
    if_pos (by simp [new])
  rw [(race_succ h c n).2, Call.make_of_ok (made t), first, Call.make_of_ok (made _), second]

end Portal

/-! ## Repeated and raced -/

open Portal in
/-- At every portal: what is repeated leaves the tables that once leaves, and the second time and
all later ones come out alike, if there are tables, if the integers of the call are in range or if
the idle connections are alike to it; otherwise the call fails every time, in one of two ways. Of
consumers of what is live one wins and the others get nothing, and nobody wins what is not; of valid
creates under free keys one succeeds, and the others meet a key in use; of creates of the wallet of
a new user one is answered with yes. -/
theorem repeats_settle_and_races_have_one_winner (p : Portal) (n : Nat) :
    (∀ s : Step, s.Repeats →
      (p.run (List.replicate (n + 1) s)).1.tables = (p.step s).1.tables ∧
        (p.Steady s → ∃ o, ∀ e ∈ (p.run (List.replicate (n + 1) s)).2.drop 1, e.outcome = o)) ∧
    (∀ c, p.tables = none → (c.integers p.context).all fitsWord = false →
      ∀ e ∈ (p.run (List.replicate (n + 1) (.call c))).2,
        e.outcome = .called (.error .integerOutOfRange) ∨
          e.outcome = .called (.error .schemaMissing)) ∧
    (∀ (L : Ledger) k t, p.tables = some t → fitsWord p.clock = true →
      (∃ v ∈ L.held t, v.key = k ∧ p.clock < v.expiry) →
        ∃ a, wins (p.raced (n + 1) (L.consume k)) = [a] ∧
          losses (p.raced (n + 1) (L.consume k)) = n ∧
          faults (p.raced (n + 1) (L.consume k)) = []) ∧
    (∀ (L : Ledger) k, (∀ v ∈ L.heldIn p.tables, ¬ (v.key = k ∧ p.clock < v.expiry)) →
      wins (p.raced (n + 1) (L.consume k)) = []) ∧
    (∀ c t, p.tables = some t → c.Valid p.context → c.FindsFree t →
      ∃ a entity detail, wins (p.raced (n + 1) c) = [a] ∧ losses (p.raced (n + 1) c) = 0 ∧
        faults (p.raced (n + 1) c) = List.replicate n (.taken entity detail)) ∧
    ∀ t user account seed key network, p.tables = some t → fitsWord p.clock = true →
      (∀ w ∈ t.wallets, w.userId ≠ user) →
        p.raced (n + 1) (.wallets (.create user account seed key network)) =
          .ok (.flag true) :: List.replicate n (.ok (.flag false)) := by
  refine ⟨?_, ?_, ?_, ?_, ?_, ?_⟩
  · intro s hs
    exact ⟨tables_of_replicate hs p n, fun steady => outcomes_of_replicate hs steady n⟩
  · intro c gone unfit
    exact faults_without_tables gone unfit (n + 1)
  · rintro L k t ht fits ⟨v, hv, hlive⟩
    exact race_consume ht fits hv hlive n
  · intro L k dead
    exact race_consume_dead dead (n + 1)
  · intro c t ht valid free
    exact race_create ht valid free n
  · intro t user account seed key network ht fits unknown
    exact race_wallet ht fits unknown account seed key network n

open Portal in
/-- Three times, or three at once, with one live state: consuming it, consuming another, creating
another and creating a wallet; and a call out of range without tables. -/
theorem three_settle_and_one_of_three_wins :
    let create (id : String) : Call := .oauthStates (.create id (.text "google") "r" (some 100))
    let consume (id : String) : Call := Ledger.oauthStates.consume id
    let verify : Call := .enrollments (.verifyOwner "u")
    let wallet : Call := .wallets (.create "u" "a" "h" "k" none)
    let t : Tables := { Tables.empty with oauthStates := [⟨"s", .google, "r", 100, 0⟩] }
    let p : Portal := ⟨.standard, 0, some t, [.fresh]⟩
    let gone : Portal := ⟨.standard, wordBound, none, [.fresh]⟩
    (((Portal.fresh .standard 0).run [.call (create "s")]).1.tables = p.tables ∧
      (p.run (List.replicate 3 (.call (consume "s")))).1.tables =
        (p.step (.call (consume "s"))).1.tables ∧
      ∃ o, ∀ e ∈ (p.run (List.replicate 3 (.call (consume "s")))).2.drop 1, e.outcome = o) ∧
    (∀ e ∈ (gone.run (List.replicate 3 (.call verify))).2,
      e.outcome = .called (.error .integerOutOfRange) ∨
        e.outcome = .called (.error .schemaMissing)) ∧
    (∃ a, wins (p.raced 3 (consume "s")) = [a] ∧ losses (p.raced 3 (consume "s")) = 2 ∧
      faults (p.raced 3 (consume "s")) = []) ∧
    wins (p.raced 3 (consume "x")) = [] ∧
    (∃ a entity detail, wins (p.raced 3 (create "x")) = [a] ∧ losses (p.raced 3 (create "x")) = 0 ∧
      faults (p.raced 3 (create "x")) = List.replicate 2 (.taken entity detail)) ∧
    p.raced 3 wallet = .ok (.flag true) :: List.replicate 2 (.ok (.flag false)) := by
  intro create consume verify wallet t p gone
  obtain ⟨repeated, -, live, dead, created, walleted⟩ :=
    repeats_settle_and_races_have_one_winner p 2
  obtain ⟨-, fails, -⟩ := repeats_settle_and_races_have_one_winner gone 2
  have settled := repeated (.call (consume "s")) (.call _)
  have steady : p.Steady (.call (consume "s")) := Or.inl (Option.some_ne_none t)
  let issued : Voucher := ⟨"s", 100, .record (some (.oauthState .google "r"))⟩
  have held : Ledger.oauthStates.held t = [issued] := rfl
  refine ⟨⟨rfl, settled.1, settled.2 steady⟩, fails verify rfl rfl, ?_, ?_, ?_, ?_⟩
  · refine live .oauthStates "s" t rfl rfl ⟨issued, ?_, rfl, ?_⟩
    · rw [held]
      exact List.mem_singleton.mpr rfl
    · decide
  · refine dead .oauthStates "x" ?_
    intro v hv
    have hv' : v ∈ Ledger.oauthStates.held t := hv
    rw [held, List.mem_singleton] at hv'
    rw [hv']
    simp [issued]
  · refine created (create "x") t rfl ⟨⟨_, rfl⟩, rfl⟩ ?_
    intro r hr
    rw [List.mem_singleton.mp hr]
    decide
  · refine walleted t "u" "a" "h" "k" none rfl rfl ?_
    intro w hw
    cases hw

/-- One of two connections has prepared the statement before the schema is dropped, and the clock
is out of range: the calls that take turns on the two fail in turn in two ways. -/
theorem outcomes_differ_without_schema :
    let verify : Call := .enrollments (.verifyOwner "u")
    let p := ((Portal.fresh .standard 1700000000000).run
      [.race 2 (.sessions (.find "h")), .call verify, .dropSchema,
        .advance 9223372036854775807]).1
    ¬ ∃ o, ∀ e ∈ (p.run (List.replicate 3 (.call verify))).2.drop 1, e.outcome = o := by
  intro verify p
  rintro ⟨o, ho⟩
  have entries : (p.run (List.replicate 3 (.call verify))).2.drop 1 =
      [⟨.called (.error .schemaMissing), []⟩, ⟨.called (.error .integerOutOfRange), []⟩] := by
    simp only [verify, p]
    rfl
  rw [entries] at ho
  have second := ho _ List.mem_cons_self
  have third := ho _ (List.mem_cons_of_mem _ List.mem_cons_self)
  rw [← second] at third
  cases third

end AccountPortal

import AccountPortal.Proofs.Holding
import AccountPortal.Proofs.Ledger.Stores

/-!
# Single use

What a ledger holds is what the history left of it: the vouchers that were issued and since then
neither redeemed nor swept away after their expiry, with the schema there all the time. So who
consumes a key is answered as the history has it, and between two who are answered with something
the key was issued again:

    v ∈ L.heldIn tables ↔ Since (L.Issues v) (L.Ends v) h               (Follows, follows_of_course)
    consume k answers b, not nothing ↔ L.Redeemable k now h b         (consumed_iff_issued_since)
-/

namespace AccountPortal.Ledger

open Voucher

variable (L : Ledger)

/-! ## What an event is to a voucher -/

/-- A successful create that gives the voucher. -/
def Issues (v : Voucher) (e : Event) : Prop := L.action? e = some (.issue v)

/-- A consumer of the key that is answered with something. -/
def Redeems (k : String) (e : Event) : Prop := L.action? e = some (.redeem k)

/-- A purge of the ledger or of all, when the voucher is expired. -/
def Sweeps (v : Voucher) (e : Event) : Prop := L.action? e = some .sweep ∧ v.expiry ≤ e.clock

def Ends (v : Voucher) (e : Event) : Prop :=
  L.Redeems v.key e ∨ L.Sweeps v e ∨ e.deed = .dropSchema

/-- What the history leaves to be had for the key. -/
def Redeemable (k : String) (now : Int) (h : List Event) (a : Answer) : Prop :=
  ∃ v : Voucher, v.key = k ∧ v.grant = a ∧ now < v.expiry ∧ Since (L.Issues v) (L.Ends v) h

/-! ## What a history leaves -/

def heldIn : Option Tables → List Voucher
  | some t => L.held t
  | none => []

structure Follows (h : List Event) (tables : Option Tables) : Prop where
  distinct : Distinct (L.heldIn tables)
  mem_iff : ∀ v, v ∈ L.heldIn tables ↔ Since (L.Issues v) (L.Ends v) h

variable {settings : Settings} {e : Event} {h : List Event} {before after : Option Tables}

theorem takes_iff (v : Voucher) (kept : e.deed ≠ .dropSchema) :
    Action.Takes e.clock v (L.action? e) ↔ L.Ends v e := by
  unfold Ends Redeems Sweeps
  cases L.action? e with
  | none => simp [Action.Takes, kept]
  | some act => cases act <;> simp [Action.Takes, kept, eq_comm]

theorem action?_dropSchema (h : e.deed = .dropSchema) : L.action? e = none := by
  unfold action?
  rw [h]
  cases L <;> rfl

/-- Without tables nothing is issued, redeemed or swept. -/
theorem action?_of_moves_none (moves : e.Moves settings none after) : L.action? e = none := by
  obtain ⟨now, deed⟩ := e
  cases deed with
  | migrate => cases L <;> rfl
  | dropSchema => cases L <;> rfl
  | call c out =>
    cases out with
    | error f => cases L <;> cases c <;> rfl
    | ok a =>
      obtain ⟨provider, subject, rfl⟩ := Call.eq_find_of_answered (Event.moves_none moves).2
      cases L <;> rfl

/-- Only calls that are answered issue something. -/
theorem call_of_issues {v : Voucher} (issues : L.Issues v e) :
    ∃ c a, e.deed = .call c (.ok a) ∧
      ∀ provider subject, c ≠ .identityLinks (.find provider subject) := by
  obtain ⟨now, deed⟩ := e
  cases deed with
  | migrate => cases L <;> cases issues
  | dropSchema => cases L <;> cases issues
  | call c out =>
    cases out with
    | error f => cases L <;> cases c <;> cases issues
    | ok a =>
      refine ⟨c, a, rfl, ?_⟩
      rintro provider subject rfl
      cases L <;> cases issues

def holding (settings : Settings) : Holding settings Voucher where
  held t := L.held t
  starts := L.Issues
  ends := L.Ends
  Proper := Distinct
  proper_nil := List.nodup_nil
  held_empty := by cases L <;> rfl
  proper_of_moves moves := (L.does_of_moves moves).distinct
  mem_of_moves := by
    intro e t u moves distinct v
    have kept : e.deed ≠ .dropSchema := by
      intro hdeed
      unfold Event.Moves at moves
      rw [hdeed] at moves
      cases moves
    rw [← L.takes_iff v kept]
    exact (L.does_of_moves moves).mem_iff distinct v
  ends_dropSchema v e h := Or.inr (Or.inr h)
  call_of_starts := L.call_of_issues

theorem follows_of_course {tables : Option Tables}
    (course : Course settings (some .empty) h tables) : L.Follows h tables := by
  have distinct := (L.holding settings).proper_heldIn course
  have held := (L.holding settings).mem_heldIn_iff course
  cases tables with
  | none => exact ⟨distinct, held⟩
  | some t => exact ⟨distinct, held⟩

/-! ## Consumers -/

variable {k : String} {now : Int} {a : Answer}

/-- What a consumer is answered is what the history before it left for the key. -/
theorem Follows.wins_iff {ctx : Context} {t u : Tables} (hf : L.Follows h (some t))
    (heffect : (L.consume k).effect ctx t = .ok (u, a)) (b : Answer) :
    a = b ∧ b.isLoss = false ↔ L.Redeemable k ctx.clock h b := by
  rw [L.wins_iff heffect hf.distinct]
  constructor
  · rintro ⟨v, hv, hkey, hlive, hgrant⟩
    exact ⟨v, hkey, hgrant, hlive, (hf.mem_iff v).mp hv⟩
  · rintro ⟨v, hkey, hgrant, hlive, hsince⟩
    exact ⟨v, (hf.mem_iff v).mpr hsince, hkey, hlive, hgrant⟩

/-- A consumer that is answered finds tables there. -/
theorem exists_of_answered
    (moves : Event.Moves settings ⟨now, .call (L.consume k) (.ok a)⟩ before after) :
    ∃ t u, before = some t ∧ after = some u ∧
      (L.consume k).effect ⟨settings, now⟩ t = .ok (u, a) := by
  cases before with
  | none =>
    obtain ⟨provider, subject, heq⟩ := Call.eq_find_of_answered (Event.moves_none moves).2
    cases L <;> cases heq
  | some t =>
    obtain ⟨u, hu, heffect⟩ := Event.moves_ok moves
    exact ⟨t, u, rfl, hu, heffect⟩

theorem tables_of_loss
    (moves : Event.Moves settings ⟨now, .call (L.consume k) (.ok a)⟩ before after)
    (loss : a.isLoss = true) : after = before := by
  obtain ⟨t, u, rfl, rfl, heffect⟩ := L.exists_of_answered moves
  rw [L.eq_of_loss heffect loss]

/-- Who redeems a key finds a voucher of it, which was issued since the key was last redeemed. -/
theorem issued_between {passed mid rest : List Event} {e e' : Event} {tables : Option Tables}
    (course : Course settings (some .empty) h tables)
    (heq : h = passed ++ e :: (mid ++ e' :: rest)) (he : L.Redeems k e) (he' : L.Redeems k e') :
    ∃ x ∈ mid, ∃ v : Voucher, v.key = k ∧ L.Issues v x := by
  have hmid : h = (passed ++ e :: mid) ++ e' :: rest := by rw [heq]; simp
  obtain ⟨before, after, first, moves, -⟩ := course.middle hmid
  obtain ⟨v, hv, hkey⟩ : ∃ v ∈ L.heldIn before, v.key = k := by
    cases before with
    | none =>
      unfold Redeems at he'
      rw [L.action?_of_moves_none moves] at he'
      cases he'
    | some t =>
      obtain ⟨u, rfl⟩ := Event.exists_of_moves moves fun hdrop => by
        unfold Redeems at he'
        rw [L.action?_dropSchema hdrop] at he'
        cases he'
      have does := L.does_of_moves moves
      rw [show L.action? e' = _ from he'] at does
      obtain ⟨v, hv, hkey, -⟩ := does.exists_live
      exact ⟨v, hv, hkey⟩
  have since := ((L.follows_of_course first).mem_iff v).mp hv
  have silent : ¬ L.Issues v e := by
    unfold Issues
    rw [show L.action? e = _ from he]
    simp
  have ends : L.Ends v e := Or.inl (hkey ▸ he)
  obtain ⟨x, hx, hissue⟩ := since.start_after silent ends
  exact ⟨x, hx, v, hkey, hissue⟩

end AccountPortal.Ledger

namespace AccountPortal

/-- The law of each of the three ledgers, for every run from a new portal. Whoever consumes a key
after the run, with the clock in range and the schema there, is answered; with something exactly
when the history leaves it for the key. So is every consumer within the run, and the callers of a
race are among these. Whoever is answered with nothing changes no table. Between two that are
answered with something the key is issued. -/
theorem consumed_iff_issued_since (settings : Settings) (clock : Int) (steps : List Portal.Step)
    (L : Ledger) (k : String) :
    let p := Portal.fresh settings clock
    let q := (p.run steps).1
    (q.tables ≠ none → fitsWord q.clock = true →
      ∃ a, (q.call (L.consume k)).2.outcome = .ok a ∧
        ∀ b, a = b ∧ b.isLoss = false ↔ L.Redeemable k q.clock (p.history steps) b) ∧
    (∀ passed now a rest,
      p.history steps = passed ++ ⟨now, .call (L.consume k) (.ok a)⟩ :: rest →
        ∀ b, a = b ∧ b.isLoss = false ↔ L.Redeemable k now passed b) ∧
    (∀ (s : Portal) conn a, (s.attempt conn (L.consume k)).2 = .ok a → a.isLoss = true →
      (s.attempt conn (L.consume k)).1 = s.tables) ∧
    ∀ passed e mid e' rest, p.history steps = passed ++ e :: (mid ++ e' :: rest) →
      L.Redeems k e → L.Redeems k e' → ∃ x ∈ mid, ∃ v : Voucher, v.key = k ∧ L.Issues v x := by
  intro p q
  have course := p.run_course steps
  refine ⟨?_, ?_, ?_, ?_⟩
  · intro present fits
    obtain ⟨t, ht⟩ := Option.ne_none_iff_exists'.mp present
    obtain ⟨u, heffect⟩ := L.consume_of_fits k q.context t fits
    have answered := Portal.attempt_eq_of_effect_ok ht (.next q.connections) heffect
    refine ⟨_, congrArg Prod.snd answered, ?_⟩
    have hf := L.follows_of_course course
    rw [show (p.run steps).1.tables = some t from ht] at hf
    exact Ledger.Follows.wins_iff L hf heffect
  · intro passed now a rest heq
    obtain ⟨before, after, first, moves, -⟩ := course.middle heq
    obtain ⟨t, u, rfl, rfl, heffect⟩ := L.exists_of_answered moves
    exact Ledger.Follows.wins_iff L (L.follows_of_course first) heffect
  · intro s conn a h loss
    have moves := s.attempt_moves conn (L.consume k)
    rw [h] at moves
    exact L.tables_of_loss moves loss
  · intro passed e mid e' rest heq he he'
    exact L.issued_between course heq he he'

/-- A state that two callers want at once, and that is created again when the clock stands back. -/
theorem state_consumed_once :
    let create : Call := .oauthStates (.create "s" (.text "google") "r" (some 100))
    let consume : Call := Ledger.oauthStates.consume "s"
    let granted : Except Fault Answer := .ok (.record (some (.oauthState .google "r")))
    let lost : Except Fault Answer := .ok (.record none)
    let first : Event := ⟨0, .call consume granted⟩
    let second : Event := ⟨-5, .call consume granted⟩
    let mid : List Event := [⟨0, .call consume lost⟩, ⟨-5, .call create (.ok (.moment 100))⟩]
    let p := Portal.fresh .standard 0
    let steps : List Portal.Step :=
      [.call create, .race 2 consume, .advance (-5), .call create, .call consume]
    let q := (p.run steps).1
    (q.tables ≠ none ∧ fitsWord q.clock = true ∧
      ∃ a, (q.call consume).2.outcome = .ok a ∧
        ∀ b, a = b ∧ b.isLoss = false ↔
          Ledger.oauthStates.Redeemable "s" q.clock (p.history steps) b) ∧
    (p.history steps = [⟨0, .call create (.ok (.moment 100))⟩] ++ first :: (mid ++ [second]) ∧
      ∀ b, Answer.record (some (.oauthState .google "r")) = b ∧ b.isLoss = false ↔
        Ledger.oauthStates.Redeemable "s" 0 [⟨0, .call create (.ok (.moment 100))⟩] b) ∧
    ((p.attempt [] consume).2 = lost ∧ (p.attempt [] consume).1 = p.tables) ∧
    Ledger.oauthStates.Redeems "s" first ∧ Ledger.oauthStates.Redeems "s" second ∧
      ∃ x ∈ mid, ∃ v : Voucher, v.key = "s" ∧ Ledger.oauthStates.Issues v x := by
  intro create consume granted lost first second mid p steps q
  have happened : p.history steps =
      [⟨0, .call create (.ok (.moment 100))⟩] ++ first :: (mid ++ [second]) := by
    simp only [create, consume, granted, lost, first, second, mid, p, steps]
    rfl
  have present : q.tables ≠ none := by
    simp only [create, consume, p, steps, q]
    exact Option.some_ne_none _
  have fits : fitsWord q.clock = true := by
    simp only [create, consume, p, steps, q]
    rfl
  have loses : (p.attempt [] consume).2 = lost := rfl
  have redeems : Ledger.oauthStates.Redeems "s" first := rfl
  have redeems' : Ledger.oauthStates.Redeems "s" second := rfl
  obtain ⟨later, within, loss, between⟩ :=
    consumed_iff_issued_since .standard 0 steps .oauthStates "s"
  exact ⟨⟨present, fits, later present fits⟩, ⟨happened, within _ _ _ _ happened⟩,
    ⟨loses, loss p [] _ loses rfl⟩, redeems, redeems',
    between _ first mid second [] happened redeems redeems'⟩

end AccountPortal

import AccountPortal.Proofs.Rows

/-!
# Vouchers

What the three ledgers of things that are used once have in common, without their columns. A
voucher has a key, an expiry and what it is worth. It is issued under a key that is free, redeemed
by its key before its expiry, and swept away after that; `Action.Does` is one of these, or nothing.
The keys that are held stay distinct, so which vouchers are held follows from the actions:

    v ∈ after ↔ issued now ∨ (v ∈ before ∧ neither redeemed nor swept now)       (Does.mem_iff)
-/

namespace AccountPortal

structure Voucher where
  key : String
  expiry : Int
  /-- What is answered to who redeems it. -/
  grant : Answer

namespace Voucher

/-- Whether the voucher is worth something to who brings the key. -/
def redeemable (k : String) (now : Int) (v : Voucher) : Bool :=
  v.key == k && decide (now < v.expiry)

def expired (now : Int) (v : Voucher) : Bool := !decide (now < v.expiry)

variable {now : Int} {k : String} {v : Voucher} {held : List Voucher}

theorem redeemable_iff : redeemable k now v = true ↔ v.key = k ∧ now < v.expiry := by
  simp [redeemable]

theorem expired_iff : expired now v = true ↔ v.expiry ≤ now := by simp [expired]

/-! ## Distinct keys -/

def Distinct (held : List Voucher) : Prop := (held.map Voucher.key).Nodup

theorem Distinct.eq_of_key {w : Voucher} (h : Distinct held) (hv : v ∈ held) (hw : w ∈ held)
    (hk : v.key = w.key) : v = w :=
  List.inj_on_of_nodup_map h hv hw hk

theorem Distinct.remove {p : Voucher → Bool} (h : Distinct held) :
    Distinct (Rows.remove p held) :=
  Rows.nodup_map_remove h

theorem Distinct.issue (h : Distinct held) (free : ∀ w ∈ held, w.key ≠ v.key) :
    Distinct (held ++ [v]) :=
  Rows.nodup_map_append h free

/-- A voucher that is found under a key is the only one that can be. -/
theorem find?_eq_some_iff (h : Distinct held) (v : Voucher) :
    held.find? (redeemable k now) = some v ↔ v ∈ held ∧ v.key = k ∧ now < v.expiry := by
  rw [Rows.find?_eq_some_iff_of_unique, redeemable_iff]
  intro v hv w hw hv' hw'
  have same : v.key = w.key :=
    (redeemable_iff.mp hv').1.trans (redeemable_iff.mp hw').1.symm
  exact h.eq_of_key hv hw same

theorem find?_own_key (h : Distinct held) (hv : v ∈ held) :
    held.find? (redeemable v.key now) = if now < v.expiry then some v else none := by
  have found : held.find? (redeemable v.key now) =
      if decide (now < v.expiry) then some v else none := Rows.find?_own_key h hv
  simpa only [decide_eq_true_eq] using found

end Voucher

/-! ## Actions -/

inductive Action where
  | issue (v : Voucher)
  | redeem (k : String)
  | sweep

namespace Action

variable {now : Int} {k : String} {v : Voucher} {held held' : List Voucher} {act : Option Action}

/-- What an action makes of the vouchers that are held, and what it needs of them. -/
inductive Does (now : Int) : Option Action → List Voucher → List Voucher → Prop where
  | nothing (held : List Voucher) : Does now none held held
  | issue {v : Voucher} {held : List Voucher} (free : ∀ w ∈ held, w.key ≠ v.key) :
      Does now (some (.issue v)) held (held ++ [v])
  | redeem {k : String} {held : List Voucher} (live : held.any (Voucher.redeemable k now) = true) :
      Does now (some (.redeem k)) held (Rows.remove (Voucher.redeemable k now) held)
  | sweep (held : List Voucher) :
      Does now (some .sweep) held (Rows.remove (Voucher.expired now) held)

theorem Does.of_eq (h : held' = held) : Does now none held held' := h ▸ .nothing held'

/-! ## What is held -/

theorem Does.distinct (does : Does now act held held') (h : Voucher.Distinct held) :
    Voucher.Distinct held' := by
  cases does with
  | nothing => exact h
  | issue free => exact h.issue free
  | redeem live => exact h.remove
  | sweep => exact h.remove

/-- Only a key that a live voucher has is redeemed. -/
theorem Does.exists_live (does : Does now (some (.redeem k)) held held') :
    ∃ v ∈ held, v.key = k ∧ now < v.expiry := by
  cases does with
  | redeem live =>
    obtain ⟨v, hv, hlive⟩ := List.any_eq_true.mp live
    exact ⟨v, hv, Voucher.redeemable_iff.mp hlive⟩

/-- Whether an action takes the voucher away from what is held. -/
def Takes (now : Int) (v : Voucher) : Option Action → Prop
  | some (.redeem k) => v.key = k
  | some .sweep => v.expiry ≤ now
  | _ => False

/-- A voucher under the key that is redeemed is the one that is redeemed, expired or not. -/
theorem Does.mem_iff (does : Does now act held held') (h : Voucher.Distinct held)
    (v : Voucher) : v ∈ held' ↔ act = some (.issue v) ∨ (v ∈ held ∧ ¬ Takes now v act) := by
  cases does with
  | nothing => simp [Takes]
  | @issue w _ free =>
    have hissue : some (Action.issue w) = some (.issue v) ↔ v = w := by
      rw [Option.some.injEq, Action.issue.injEq]
      exact eq_comm
    rw [hissue, List.mem_append, List.mem_singleton, or_comm]
    simp [Takes]
  | @redeem k _ live =>
    obtain ⟨w, hw, hlive⟩ := List.any_eq_true.mp live
    have hkey : w.key = k := (Voucher.redeemable_iff.mp hlive).1
    rw [Rows.mem_remove]
    constructor
    · rintro ⟨hv, hdead⟩
      refine Or.inr ⟨hv, ?_⟩
      intro hvk
      have same : v = w := h.eq_of_key hv hw (hkey ▸ hvk)
      rw [same, hlive] at hdead
      cases hdead
    · rintro (hissue | ⟨hv, hkept⟩)
      · cases hissue
      · refine ⟨hv, ?_⟩
        rw [Bool.eq_false_iff]
        exact fun hredeem => hkept (Voucher.redeemable_iff.mp hredeem).1
  | sweep =>
    rw [Rows.mem_remove, Bool.eq_false_iff, Ne, Voucher.expired_iff]
    simp [Takes]

end Action

end AccountPortal

import AccountPortal.Proofs.Effect
import AccountPortal.Proofs.Rows

/-!
# What a request ensures

`Plan.Ensures P planned`: wherever the request is answered, `P` holds of the tables before and after
it and of the answer. One lemma for each shape of a plan; what is answered found its integers in
range.
-/

namespace AccountPortal.Plan

variable {σ τ α : Type} {P : σ → σ → Answer → Prop}

/-- What holds of the tables before and after a request that is answered, and of its answer. -/
def Ensures (P : σ → σ → Answer → Prop) (planned : Except Fault (Plan σ)) : Prop :=
  ∀ s s' a, effectOf planned s = .ok (s', a) → P s s' a

theorem ensures_error (f : Fault) : Ensures P (.error f) := by
  intro s s' a h
  cases h

theorem ensures_answered {a : Answer} (h : ∀ s, P s s a) : Ensures P (.ok (.answered a)) := by
  intro s s' b heq
  cases heq
  exact h s

theorem ensures_transaction {integers : List Int} {body : σ → Except Fault (σ × Answer)}
    (h : integers.all fitsWord = true → ∀ s s' a, body s = .ok (s', a) → P s s' a) :
    Ensures P (.ok (.transaction integers body)) := by
  intro s s' a heq
  obtain ⟨fits, hbody⟩ := effect_transaction_eq_ok_iff.mp heq
  exact h fits s s' a hbody

theorem ensures_update_of_fits {integers : List Int} {write : σ → σ × Answer}
    (h : integers.all fitsWord = true → ∀ s, P s (write s).1 (write s).2) :
    Ensures P (.ok (.update integers write)) := by
  intro s s' a heq
  obtain ⟨fits, rfl, rfl⟩ := effect_update_eq_ok_iff.mp heq
  exact h fits s

theorem ensures_update {integers : List Int} {write : σ → σ × Answer}
    (h : ∀ s, P s (write s).1 (write s).2) : Ensures P (.ok (.update integers write)) :=
  ensures_update_of_fits fun _ => h

theorem ensures_insert_of_fits {P : List α → List α → Answer → Prop} {integers : List Int}
    {taken : α → Bool} {new : α} {f : Fault} {b : Answer}
    (h : integers.all fitsWord = true → ∀ rows, P rows (rows ++ [new]) b) :
    Ensures P (.ok (.transaction integers fun rows =>
      if rows.any taken then .error f else .ok (rows ++ [new], b))) := by
  refine ensures_transaction fun fits rows rows' a heq => ?_
  obtain ⟨-, rfl, rfl⟩ := Rows.eq_of_insert_ok heq
  exact h fits rows

theorem ensures_insert {P : List α → List α → Answer → Prop} {integers : List Int}
    {taken : α → Bool} {new : α} {f : Fault} {b : Answer} (h : ∀ rows, P rows (rows ++ [new]) b) :
    Ensures P (.ok (.transaction integers fun rows =>
      if rows.any taken then .error f else .ok (rows ++ [new], b))) :=
  ensures_insert_of_fits fun _ => h

theorem ensures_map {β : Type} {x : Except Fault β} {plan : β → Plan σ}
    (h : ∀ b, Ensures P (.ok (plan b))) : Ensures P (x.map plan) := by
  cases x with
  | error f => exact ensures_error f
  | ok b => exact h b

theorem ensures_on {Q : τ → τ → Answer → Prop} {get : τ → σ} {set : σ → τ → τ}
    {planned : Except Fault (Plan σ)} (h : Ensures P planned) (hset : ∀ t, set (get t) t = t)
    (whole : ∀ t s a, P (get t) s a → Q t (set s t) a) :
    Ensures Q (planned.map (Plan.on get set)) := by
  intro t u a heq
  obtain ⟨s, hs, rfl⟩ := exists_of_effectOf_on heq hset
  exact whole t s a (h (get t) s a hs)

end AccountPortal.Plan

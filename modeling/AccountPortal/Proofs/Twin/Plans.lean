import AccountPortal.Proofs.Effect

/-!
# Plans side by side

Two plans on tables that are related: they meet the same fault, or are answered and leave tables
that are related, with answers that are (`Plan.Agrees`). What is left of a plan when the tables are
gone is its outline: the answer that is known without them, or the integers that it binds.
-/

namespace AccountPortal

/-- The same fault, or answers that are related. -/
inductive SameEnd (A : Answer → Answer → Prop) :
    Except Fault Answer → Except Fault Answer → Prop where
  | ok {a a' : Answer} (answers : A a a') : SameEnd A (.ok a) (.ok a')
  | error (f : Fault) : SameEnd A (.error f) (.error f)

namespace Plan

variable {σ τ : Type} {R : σ → σ → Prop} {A : Answer → Answer → Prop} {s s' : σ}

/-- The same fault, or answers and tables that are related. -/
inductive Agrees (R : σ → σ → Prop) (A : Answer → Answer → Prop) :
    Except Fault (σ × Answer) → Except Fault (σ × Answer) → Prop where
  | ok {s s' : σ} {a a' : Answer} (tables : R s s') (answers : A a a') :
      Agrees R A (.ok (s, a)) (.ok (s', a'))
  | error (f : Fault) : Agrees R A (.error f) (.error f)

theorem agrees_transaction (integers : List Int) {body body' : σ → Except Fault (σ × Answer)}
    (h : Agrees R A (body s) (body' s')) :
    Agrees R A ((transaction integers body).effect s) ((transaction integers body').effect s') := by
  simp only [effect]
  cases integers.all fitsWord with
  | true => exact h
  | false => exact .error _

theorem agrees_update (integers : List Int) {write write' : σ → σ × Answer}
    (tables : R (write s).1 (write' s').1) (answers : A (write s).2 (write' s').2) :
    Agrees R A ((update integers write).effect s) ((update integers write').effect s') :=
  agrees_transaction integers (.ok tables answers)

theorem agrees_map {α : Type} (x : Except Fault α) {plan plan' : α → Plan σ}
    (h : ∀ a, Agrees R A ((plan a).effect s) ((plan' a).effect s')) :
    Agrees R A (effectOf (x.map plan) s) (effectOf (x.map plan') s') := by
  cases x with
  | error f => exact .error f
  | ok a => exact h a

/-- What requests do to their part of the tables they do to the whole. -/
theorem agrees_on {get : τ → σ} {set : σ → τ → τ} {Q : τ → τ → Prop} {t t' : τ}
    {planned planned' : Except Fault (Plan σ)} (hset : ∀ t, set (get t) t = t)
    (h : Agrees R A (effectOf planned (get t)) (effectOf planned' (get t')))
    (whole : ∀ s s', R s s' → Q (set s t) (set s' t')) :
    Agrees Q A (effectOf (planned.map (on get set)) t)
      (effectOf (planned'.map (on get set)) t') := by
  rw [effectOf_on get set planned t hset, effectOf_on get set planned' t' hset]
  generalize effectOf planned (get t) = x, effectOf planned' (get t') = y at h
  cases h with
  | ok tables answers => exact .ok (whole _ _ tables) answers
  | error f => exact .error f

/-- A request on a part that is the same in both. -/
theorem agrees_on_same {get : τ → σ} {set : σ → τ → τ} {Q : τ → τ → Prop} {t t' : τ}
    {planned : Except Fault (Plan σ)} (hset : ∀ t, set (get t) t = t) (same : get t' = get t)
    (answers : ∀ a, A a a) (whole : ∀ s, Q (set s t) (set s t')) :
    Agrees Q A (effectOf (planned.map (on get set)) t)
      (effectOf (planned.map (on get set)) t') := by
  refine agrees_on (R := Eq) hset ?_ (by rintro s s' rfl; exact whole s)
  rw [same]
  cases effectOf planned (get t) with
  | error f => exact .error f
  | ok r => exact .ok rfl (answers r.2)

/-! ## Outlines -/

/-- A plan without what it does to the tables. -/
def outline : Plan σ → Answer ⊕ List Int
  | .answered a => .inl a
  | .transaction integers _ => .inr integers

end Plan

namespace Call

def outline (ctx : Context) (c : Call) : Except Fault (Answer ⊕ List Int) :=
  (c.plan ctx).map Plan.outline

/-- What a call with this outline comes to without tables. -/
def withoutTables (prepared : Bool) : Except Fault (Answer ⊕ List Int) → Except Fault Answer
  | .error f => .error f
  | .ok (.inl a) => .ok a
  | .ok (.inr integers) =>
    .error (if prepared && !integers.all fitsWord then .integerOutOfRange else .schemaMissing)

end Call

theorem Portal.attempt_of_none {p : Portal} (h : p.tables = none) (conn : Connection) (c : Call) :
    p.attempt conn c = (none, Call.withoutTables (conn.knows c) (c.outline p.context)) := by
  unfold attempt perform Call.outline
  rw [h]
  cases c.plan p.context with
  | error f => rfl
  | ok plan =>
    cases plan with
    | answered a => rfl
    | transaction integers body =>
      simp only [Plan.execute_transaction_none]
      rfl

end AccountPortal

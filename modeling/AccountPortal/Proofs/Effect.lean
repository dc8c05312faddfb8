import AccountPortal.Portal.Run

/-!
# What a call does to tables that are there

`Call.effect` gives the tables after a call with its answer, or its fault, when the schema is
present; `Portal.attempt` does just that then, whatever its connection has prepared:

    p.tables = some t → p.attempt conn c = (some t', .ok a)
      when c.effect p.context t = .ok (t', a)                       (attempt_eq_of_effect_ok)
    p.attempt conn c = (some t, .error f)
      when c.effect p.context t = .error f                          (attempt_eq_of_effect_error)

The effect of a call is the effect of its request on the tables of one store.
-/

namespace AccountPortal

/-! ## Plans -/

theorem Except.map_eq_ok_iff {ε α β : Type} {f : α → β} {x : Except ε α} {b : β} :
    x.map f = .ok b ↔ ∃ a, x = .ok a ∧ f a = b := by
  cases x <;> simp [Except.map]

theorem Choice.coerce_eq_ok_iff {α : Type} [Choice α] {label : String} {v : Value} {a : α} :
    Choice.coerce label v = .ok a ↔ Choice.ofValue? v = some a := by
  unfold Choice.coerce
  cases (Choice.ofValue? v : Option α) <;> simp

namespace Plan

variable {σ τ : Type}

/-- What a plan comes to on tables that are there. -/
def effect : Plan σ → σ → Except Fault (σ × Answer)
  | .answered a, s => .ok (s, a)
  | .transaction integers body, s =>
    if integers.all fitsWord then body s else .error .integerOutOfRange

/-- What a request comes to that may be refused before anything is planned. -/
def effectOf (planned : Except Fault (Plan σ)) (s : σ) : Except Fault (σ × Answer) :=
  match planned with
  | .ok plan => plan.effect s
  | .error f => .error f

@[simp] theorem effectOf_ok (plan : Plan σ) (s : σ) : effectOf (.ok plan) s = plan.effect s := rfl

theorem effect_transaction_eq_ok_iff {integers : List Int} {body : σ → Except Fault (σ × Answer)}
    {s s' : σ} {a : Answer} :
    (Plan.transaction integers body).effect s = .ok (s', a) ↔
      integers.all fitsWord = true ∧ body s = .ok (s', a) := by
  show (if integers.all fitsWord then body s else _) = _ ↔ _
  cases integers.all fitsWord <;> simp

theorem effect_update (integers : List Int) (write : σ → σ × Answer) (s : σ) :
    (Plan.update integers write).effect s =
      if integers.all fitsWord then .ok (write s) else .error .integerOutOfRange := rfl

/-- An update that is answered found its integers in range. -/
theorem effect_update_eq_ok_iff {integers : List Int} {write : σ → σ × Answer} {s s' : σ}
    {a : Answer} :
    (Plan.update integers write).effect s = .ok (s', a) ↔
      integers.all fitsWord = true ∧ (write s).1 = s' ∧ (write s).2 = a := by
  rw [effect_update]
  cases integers.all fitsWord <;> simp [Prod.ext_iff]

theorem execute_some (prepared : Bool) (plan : Plan σ) (s : σ) :
    plan.execute prepared (some s) = (plan.effect s).map fun (s, a) => (some s, a) := by
  cases plan with
  | answered a => rfl
  | transaction integers body =>
    simp only [execute, effect]
    cases integers.all fitsWord <;> rfl

/-- Without tables a transaction fails, by its integers where its statement is prepared. -/
theorem execute_transaction_none (prepared : Bool) (integers : List Int)
    (body : σ → Except Fault (σ × Answer)) :
    (Plan.transaction integers body).execute prepared none =
      .error (if prepared && !integers.all fitsWord then .integerOutOfRange
        else .schemaMissing) := by
  simp only [execute]
  cases prepared && !integers.all fitsWord <;> rfl

theorem effect_on (get : τ → σ) (set : σ → τ → τ) (plan : Plan σ) (t : τ)
    (h : ∀ t, set (get t) t = t) :
    (Plan.on get set plan).effect t = (plan.effect (get t)).map fun (s, a) => (set s t, a) := by
  cases plan with
  | answered a => simp [on, effect, Except.map, h]
  | transaction integers body =>
    simp only [on, effect]
    cases integers.all fitsWord <;> rfl

/-- A plan on one part of the tables leaves the others as they are. -/
theorem effectOf_on (get : τ → σ) (set : σ → τ → τ) (planned : Except Fault (Plan σ)) (t : τ)
    (h : ∀ t, set (get t) t = t) :
    effectOf (planned.map (Plan.on get set)) t =
      (effectOf planned (get t)).map fun (s, a) => (set s t, a) := by
  cases planned with
  | error f => rfl
  | ok plan => exact effect_on get set plan t h

/-- What is done is done to that part. -/
theorem exists_of_effectOf_on {get : τ → σ} {set : σ → τ → τ} {planned : Except Fault (Plan σ)}
    {t u : τ} {a : Answer} (h : effectOf (planned.map (Plan.on get set)) t = .ok (u, a))
    (hset : ∀ t, set (get t) t = t) : ∃ s, effectOf planned (get t) = .ok (s, a) ∧ u = set s t := by
  rw [effectOf_on get set planned t hset] at h
  obtain ⟨⟨s, b⟩, hs, heq⟩ := Except.map_eq_ok_iff.mp h
  cases heq
  exact ⟨s, hs, rfl⟩

/-- What does not depend on that part is kept. -/
theorem keep_of_effectOf_on {γ : Type} {get : τ → σ} {set : σ → τ → τ}
    {planned : Except Fault (Plan σ)} {t u : τ} {a : Answer}
    (h : effectOf (planned.map (Plan.on get set)) t = .ok (u, a))
    (hset : ∀ t, set (get t) t = t) (keep : τ → γ) (hkeep : ∀ s t, keep (set s t) = keep t) :
    keep u = keep t := by
  obtain ⟨s, -, rfl⟩ := exists_of_effectOf_on h hset
  exact hkeep s t

theorem answered_of_map_on {get : τ → σ} {set : σ → τ → τ} {planned : Except Fault (Plan σ)}
    {a : Answer} (h : planned.map (Plan.on get set) = .ok (.answered a)) :
    planned = .ok (.answered a) := by
  obtain ⟨plan, rfl, hplan⟩ := Except.map_eq_ok_iff.mp h
  cases plan with
  | answered b =>
    cases hplan
    rfl
  | transaction integers body => cases hplan

end Plan

/-! ## Calls -/

namespace Call

/-- The tables after a call that succeeds, with the answer, when there are tables. -/
def effect (ctx : Context) (c : Call) (t : Tables) : Except Fault (Tables × Answer) :=
  Plan.effectOf (c.plan ctx) t

variable {ctx : Context} {t : Tables} {a : Answer}

/-- A call that updates one part of the tables, at an integer that is in range. -/
theorem effect_of_update {σ : Type} (ctx : Context) (c : Call) {get : Tables → σ}
    {set : σ → Tables → Tables} {n : Int} {write : σ → σ × Answer}
    (h : c.plan ctx = (Except.ok (.update [n] write)).map (Plan.on get set))
    (hset : ∀ t, set (get t) t = t) (t : Tables) :
    c.effect ctx t =
      if fitsWord n then .ok (set (write (get t)).1 t, (write (get t)).2)
      else .error .integerOutOfRange := by
  unfold effect
  rw [h, Plan.effectOf_on get set _ t hset, Plan.effectOf_ok, Plan.effect_update, List.all_cons,
    List.all_nil, Bool.and_true]
  split <;> rfl

/-- The only call that is answered without tables looks for a link of an unknown provider. -/
theorem eq_find_of_answered {c : Call} (h : c.plan ctx = .ok (.answered a)) :
    ∃ provider subject, c = .identityLinks (.find provider subject) := by
  cases c with
  | identityLinks r =>
    have known := Plan.answered_of_map_on h
    cases r with
    | find provider subject => exact ⟨provider, subject, rfl⟩
    | link provider subject user email =>
      obtain ⟨p, -, heq⟩ := Except.map_eq_ok_iff.mp known
      cases heq
  | purgeExpired => cases h
  | accounts r =>
    have known := Plan.answered_of_map_on h
    cases r <;> cases known
  | sessions r =>
    have known := Plan.answered_of_map_on h
    cases r <;> cases known
  | emailTokens r =>
    have known := Plan.answered_of_map_on h
    cases r <;> cases known
  | wallets r =>
    have known := Plan.answered_of_map_on h
    cases r <;> cases known
  | oauthStates r =>
    have known := Plan.answered_of_map_on h
    cases r with
    | create id provider uri given =>
      obtain ⟨p, -, heq⟩ := Except.map_eq_ok_iff.mp known
      cases heq
    | _ => cases known
  | passkeyChallenges r =>
    have known := Plan.answered_of_map_on h
    cases r with
    | create id challenge flow given user email =>
      obtain ⟨p, -, heq⟩ := Except.map_eq_ok_iff.mp known
      cases heq
    | _ => cases known
  | passkeyCredentials r =>
    have known := Plan.answered_of_map_on h
    cases r with
    | register r transports =>
      obtain ⟨p, -, heq⟩ := Except.map_eq_ok_iff.mp known
      cases heq
    | _ => cases known
  | enrollments r =>
    have known := Plan.answered_of_map_on h
    cases r with
    | enroll id kind owner email hash verified =>
      obtain ⟨p, -, heq⟩ := Except.map_eq_ok_iff.mp known
      cases heq
    | touch id form =>
      simp only [Enrollments.plan] at known
      split at known <;> cases known
    | _ => cases known

end Call

/-! ## Attempts -/

namespace Portal

variable {p : Portal} {t t' : Tables} {c : Call} {a : Answer} {f : Fault}

theorem perform_some (h : p.tables = some t) (conn : Connection) (c : Call) :
    p.perform conn c = (c.effect p.context t).map fun (t, a) => (some t, a) := by
  unfold perform Call.effect Plan.effectOf
  rw [h]
  cases c.plan p.context with
  | error f => rfl
  | ok plan => exact Plan.execute_some _ plan t

theorem attempt_eq_of_effect_ok (h : p.tables = some t) (conn : Connection)
    (he : c.effect p.context t = .ok (t', a)) : p.attempt conn c = (some t', .ok a) := by
  unfold attempt
  rw [perform_some h, he]
  rfl

theorem attempt_eq_of_effect_error (h : p.tables = some t) (conn : Connection)
    (he : c.effect p.context t = .error f) : p.attempt conn c = (some t, .error f) := by
  unfold attempt
  rw [perform_some h, he, h]
  rfl

/-- What a call is answered when the schema is there. -/
theorem outcome_of_effect_ok (h : p.tables = some t) (he : c.effect p.context t = .ok (t', a)) :
    (p.call c).2.outcome = .ok a :=
  congrArg Prod.snd (attempt_eq_of_effect_ok h (.next p.connections) he)

theorem outcome_of_effect_error (h : p.tables = some t) (he : c.effect p.context t = .error f) :
    (p.call c).2.outcome = .error f :=
  congrArg Prod.snd (attempt_eq_of_effect_error h (.next p.connections) he)

theorem tables_of_effect_ok (h : p.tables = some t) (he : c.effect p.context t = .ok (t', a)) :
    (p.call c).1.tables = some t' :=
  congrArg Prod.fst (attempt_eq_of_effect_ok h (.next p.connections) he)

/-- Without tables a call leaves none, and what it is answered is known without them. -/
theorem attempt_none (h : p.tables = none) (conn : Connection) (c : Call) :
    (p.attempt conn c).1 = none ∧
      ∀ a, (p.attempt conn c).2 = .ok a → c.plan p.context = .ok (.answered a) := by
  unfold attempt perform
  rw [h]
  cases hp : c.plan p.context with
  | error f => exact ⟨rfl, fun a ha => by cases ha⟩
  | ok plan =>
    cases plan with
    | answered b =>
      refine ⟨rfl, fun a ha => ?_⟩
      cases ha
      rfl
    | transaction integers body =>
      simp only [Plan.execute_transaction_none]
      exact ⟨trivial, fun a ha => by cases ha⟩

end Portal

end AccountPortal

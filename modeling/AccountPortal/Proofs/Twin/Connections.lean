import AccountPortal.Proofs.Twin.Plans
import Mathlib.Data.List.Forall2

/-!
# Connections side by side

Two connections that have prepared the same of some statements (`Connection.Agree`) go on to do so
while the same is prepared on both. Connections that are drawn for a race agree in pairs if all did
before it:

    Agree S conn conn' → conn'.knows c = conn.knows c     for a call that starts with one of `S`
-/

namespace AccountPortal

/-! ## What a call prepares -/

/-- How far a call got with its statements: through the first, through each in a transaction of its
own, or through all of them in one. -/
inductive Stage where
  | first
  | each
  | whole

def Answer.stage : Answer → Stage
  | .verified none _ => .first
  | .purged .. => .each
  | _ => .whole

namespace Call

/-- The transactions of a call with these statements that starts one at all. -/
def passed (forms : List StatementForm) : Except Fault Answer → List (List StatementForm)
  | .ok a =>
    match a.stage with
    | .first => [forms.take 1]
    | .each => forms.map ([·])
    | .whole => [forms]
  | .error .schemaMissing => [[]]
  | .error _ => [forms.take 1]

theorem transactions_eq (ctx : Context) (c : Call) (out : Except Fault Answer) :
    c.transactions ctx out =
      match c.outline ctx with
      | .ok (.inr _) => passed c.forms out
      | _ => [] := by
  unfold transactions outline
  cases c.plan ctx with
  | error f => rfl
  | ok plan =>
    cases plan with
    | answered a => rfl
    | transaction integers body =>
      cases out with
      | ok a =>
        cases a with
        | verified user n => cases user <;> rfl
        | _ => rfl
      | error f => cases f <;> rfl

/-- Calls that come out alike at the same stage get through the same statements. -/
theorem transactions_congr {ctx : Context} {c c' : Call} {A : Answer → Answer → Prop}
    {out out' : Except Fault Answer} (outline : c'.outline ctx = c.outline ctx)
    (forms : c'.forms = c.forms) (stage : ∀ a a', A a a' → a'.stage = a.stage)
    (h : SameEnd A out out') : c'.transactions ctx out' = c.transactions ctx out := by
  rw [transactions_eq, transactions_eq, outline, forms]
  cases h with
  | error f => rfl
  | ok answers => simp only [passed, stage _ _ answers]

theorem mem_forms_of_passed {forms passed : List StatementForm} {out : Except Fault Answer}
    (h : passed ∈ Call.passed forms out) {form : StatementForm} (hform : form ∈ passed) :
    form ∈ forms := by
  have first : passed ∈ [forms.take 1] → form ∈ forms := by
    intro h
    rw [List.mem_singleton.mp h] at hform
    exact List.mem_of_mem_take hform
  cases out with
  | ok a =>
    simp only [Call.passed] at h
    cases hs : a.stage with
    | first =>
      rw [hs] at h
      exact first h
    | each =>
      rw [hs] at h
      obtain ⟨single, hsingle, rfl⟩ := List.mem_map.mp h
      rwa [List.mem_singleton.mp hform]
    | whole =>
      rw [hs] at h
      rwa [List.mem_singleton.mp h] at hform
  | error f =>
    cases f with
    | schemaMissing =>
      rw [List.mem_singleton.mp h] at hform
      cases hform
    | _ => exact first h

/-- A call prepares no statements but its own. -/
theorem mem_forms_of_transactions {ctx : Context} {c : Call} {out : Except Fault Answer}
    {passed : List StatementForm} (h : passed ∈ c.transactions ctx out) {form : StatementForm}
    (hform : form ∈ passed) : form ∈ c.forms := by
  rw [transactions_eq] at h
  split at h
  · exact mem_forms_of_passed h hform
  · cases h

end Call

/-! ## Connections -/

namespace Connection

theorem mem_prepare {conn : Connection} {forms : List StatementForm} {form : StatementForm} :
    form ∈ conn.prepare forms ↔ form ∈ conn ∨ form ∈ forms := by
  unfold prepare
  induction forms generalizing conn with
  | nil => simp
  | cons first rest ih =>
    rw [List.foldl_cons, ih, List.mem_insert_iff, List.mem_cons]
    tauto

/-- The same is prepared on both of the statements that pass. -/
def Agree (S : StatementForm → Prop) (conn conn' : Connection) : Prop :=
  ∀ form, S form → (form ∈ conn' ↔ form ∈ conn)

variable {S : StatementForm → Prop} {conn conn' : Connection}

theorem Agree.refl (conn : Connection) : Agree S conn conn := fun _ _ => Iff.rfl

theorem Agree.prepare (h : Agree S conn conn') (forms : List StatementForm) :
    Agree S (conn.prepare forms) (conn'.prepare forms) := by
  intro form hform
  rw [mem_prepare, mem_prepare, h form hform]

theorem Agree.knows (h : Agree S conn conn') {c c' : Call} (forms : c'.forms = c.forms)
    (first : ∀ form, c.forms.head? = some form → S form) : conn'.knows c' = conn.knows c := by
  unfold Connection.knows
  rw [forms]
  cases hf : c.forms.head? with
  | none => rfl
  | some form =>
    rw [Option.any_some, Option.any_some, Bool.eq_iff_iff, List.contains_iff_mem,
      List.contains_iff_mem]
    exact h form (first form hf)

end Connection

/-! ## Draws -/

namespace Portal

/-- What is then idle and what has been used, once a caller of a race came out so. -/
def seats (p : Portal) (c : Call) (used : List Connection) (out : Except Fault Answer) :
    List Connection × List Connection :=
  let drawn := draw (poolSize p.settings + overflow) p.connections used
  match c.transactions p.context out with
  | [] => (p.connections, used)
  | ts => (drawn.2.1, drawn.2.2 ++ [drawn.1.prepare ts.flatten])

/-- The first caller of a race, and the others on the connections that are left. -/
theorem callers_eq (p : Portal) (c : Call) (n : Nat) (used : List Connection) :
    p.callers c (n + 1) used =
      let conn := (draw (poolSize p.settings + overflow) p.connections used).1
      let made := p.attempt conn c
      let seats := p.seats c used made.2
      let q : Portal := { p with tables := made.1, connections := seats.1 }
      ((q.callers c n seats.2).1, p.reply c made.2 :: (q.callers c n seats.2).2) :=
  rfl

open Connection (Agree)

variable {S : StatementForm → Prop} {idle idle' used used' : List Connection}

theorem draw_agree (limit : Nat) (hidle : List.Forall₂ (Agree S) idle idle')
    (hused : List.Forall₂ (Agree S) used used') :
    let drawn := draw limit idle used
    let drawn' := draw limit idle' used'
    Agree S drawn.1 drawn'.1 ∧ List.Forall₂ (Agree S) drawn.2.1 drawn'.2.1 ∧
      List.Forall₂ (Agree S) drawn.2.2 drawn'.2.2 := by
  cases hidle with
  | cons first rest => exact ⟨first, rest, hused⟩
  | nil =>
    cases hused with
    | nil => exact ⟨.refl _, .nil, .nil⟩
    | @cons conn conn' rest rest' first others =>
      have length : rest'.length = rest.length := others.length_eq.symm
      simp only [draw, length]
      split
      · exact ⟨first, .nil, others⟩
      · exact ⟨.refl _, .nil, .cons first others⟩

theorem next_agree (hidle : List.Forall₂ (Agree S) idle idle') :
    Agree S (Connection.next idle) (Connection.next idle') := by
  cases hidle with
  | nil => exact .refl _
  | cons first rest => exact first

theorem turn_agree (hidle : List.Forall₂ (Agree S) idle idle') (forms : List StatementForm) :
    List.Forall₂ (Agree S) (Connection.turn idle forms) (Connection.turn idle' forms) := by
  unfold Connection.turn
  exact List.rel_append (List.forall₂_drop 1 hidle) (.cons ((next_agree hidle).prepare forms) .nil)

theorem turns_agree (hidle : List.Forall₂ (Agree S) idle idle') (ts : List (List StatementForm)) :
    List.Forall₂ (Agree S) (ts.foldl Connection.turn idle) (ts.foldl Connection.turn idle') := by
  induction ts generalizing idle idle' with
  | nil => exact hidle
  | cons forms rest ih => exact ih (turn_agree hidle forms)

end Portal

end AccountPortal

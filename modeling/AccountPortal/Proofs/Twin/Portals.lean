import AccountPortal.Proofs.Twin.Connections
import AccountPortal.Proofs.Twin.Steps

/-!
# Two portals side by side

Portals of the same settings at the same time whose tables are related (`Portal.Twin`), and calls on
them that do to related tables what leaves them related (`Call.Twins`). The calls come out alike,
with the same fault or with answers that are related, or else both fail; where their connections
agree they come out alike in any case:

    p.Twin R p' → c.Twins p.context R A c' → p.Ends c A (outcome of c) (outcome of c')    (attempt)

The same holds of every caller of a race (`Twin.callers`, `Twin.callers_of_agree`).
-/

namespace AccountPortal

/-- Two calls of the same statements that bind the same integers: they leave related tables related
and are answered in related ways. -/
structure Call.Twins (ctx : Context) (R : Tables → Tables → Prop) (A : Answer → Answer → Prop)
    (c c' : Call) : Prop where
  outline : c'.outline ctx = c.outline ctx
  forms : c'.forms = c.forms
  effect : ∀ t t', R t t' → Plan.Agrees R A (c.effect ctx t) (c'.effect ctx t')
  same : ∀ a, A a a

theorem Call.withoutTables_of_fits {ctx : Context} {c : Call}
    (fits : (c.integers ctx).all fitsWord = true) (prepared prepared' : Bool) :
    withoutTables prepared (c.outline ctx) = withoutTables prepared' (c.outline ctx) := by
  unfold integers at fits
  unfold outline
  cases hp : c.plan ctx with
  | error f => rfl
  | ok plan =>
    rw [hp] at fits
    cases plan with
    | answered a => rfl
    | transaction integers body =>
      have unneeded (b : Bool) : (b && !integers.all fitsWord) = false := by
        rw [show integers.all fitsWord = true from fits, Bool.not_true, Bool.and_false]
      simp only [Except.map, Plan.outline, withoutTables, unneeded]

theorem Call.fails_of_unfit {ctx : Context} {c : Call}
    (unfit : (c.integers ctx).all fitsWord = false) (prepared : Bool) :
    Portal.Fails (withoutTables prepared (c.outline ctx)) := by
  unfold integers at unfit
  unfold outline
  cases hp : c.plan ctx with
  | error f =>
    rw [hp] at unfit
    cases unfit
  | ok plan =>
    rw [hp] at unfit
    cases plan with
    | answered a => cases unfit
    | transaction integers body =>
      simp only [Except.map, Plan.outline, withoutTables]
      split
      · exact Or.inl rfl
      · exact Or.inr rfl

namespace Portal

/-- What a call prepares without tables its connection knows already. -/
theorem known_of_none {p : Portal} {c : Call} (h : p.tables = none) (conn : Connection)
    {forms : List StatementForm}
    (hforms : forms ∈ c.transactions p.context (p.attempt conn c).2) :
    ∀ form ∈ forms, form ∈ conn := by
  rw [attempt_of_none h, Call.transactions_eq] at hforms
  split at hforms
  · next integers heq =>
    rw [heq] at hforms
    simp only [Call.withoutTables] at hforms
    intro form hform
    cases hb : conn.knows c && !integers.all fitsWord with
    | false =>
      rw [hb] at hforms
      rw [List.mem_singleton.mp hforms] at hform
      cases hform
    | true =>
      -- only the statement that met the integers was looked at, and it was prepared
      rw [hb] at hforms
      rw [List.mem_singleton.mp hforms] at hform
      have known := (Bool.and_eq_true_iff.mp hb).1
      unfold Connection.knows at known
      cases hf : c.forms with
      | nil =>
        rw [hf] at hform
        cases hform
      | cons first rest =>
        rw [hf] at known hform
        rw [List.mem_singleton.mp hform]
        exact List.contains_iff_mem.mp known
  · cases hforms

/-! ## Portals -/

open Connection (Agree)

/-- The same settings and the same time, and both without tables or with tables that are related. -/
structure Twin (R : Tables → Tables → Prop) (p p' : Portal) : Prop where
  settings : p'.settings = p.settings
  clock : p'.clock = p.clock
  tables : Option.Rel R p.tables p'.tables

variable {R : Tables → Tables → Prop} {A : Answer → Answer → Prop} {S : StatementForm → Prop}
  {p p' : Portal} {c c' : Call}

theorem Twin.context (h : Twin R p p') : p'.context = p.context := by
  unfold Portal.context
  rw [h.settings, h.clock]

theorem Twin.holdsRaces (h : Twin R p p') : p'.holdsRaces = p.holdsRaces := by
  unfold Portal.holdsRaces
  rw [h.settings]

/-- The callers come out alike; or both fail, where it depends on the connections in which way. -/
def Ends (p : Portal) (c : Call) (A : Answer → Answer → Prop) (o o' : Except Fault Answer) : Prop :=
  SameEnd A o o' ∨ ¬ p.Definite c ∧ Fails o ∧ Fails o'

theorem sameEnd_of_definite {o o' : Except Fault Answer} (definite : p.Definite c)
    (h : p.Ends c A o o') : SameEnd A o o' := by
  rcases h with ends | ⟨indefinite, -⟩
  · exact ends
  · exact absurd definite indefinite

theorem Twin.cases (h : Twin R p p') :
    (p.tables = none ∧ p'.tables = none) ∨
      ∃ t t', p.tables = some t ∧ p'.tables = some t' ∧ R t t' := by
  have tables := h.tables
  generalize p.tables = before, p'.tables = before' at tables
  cases tables with
  | none => exact Or.inl ⟨rfl, rfl⟩
  | some related => exact Or.inr ⟨_, _, rfl, rfl, related⟩

theorem Twin.mono {Q : Tables → Tables → Prop} (h : Twin R p p') (imp : ∀ t t', R t t' → Q t t') :
    Twin Q p p' := by
  refine ⟨h.settings, h.clock, ?_⟩
  rcases h.cases with ⟨gone, gone'⟩ | ⟨t, t', there, there', related⟩
  · rw [gone, gone']
    exact .none
  · rw [there, there']
    exact .some (imp t t' related)

/-- The callers of a call that depends on the connections in how it fails all fail. -/
theorem Twin.fails (h : Twin R p p') {s : Step} (hc : s.call? = some c)
    (indefinite : ¬ p.Definite c) :
    ∀ o ∈ (p.step s).2.outcome.each ++ (p'.step s).2.outcome.each, Fails o := by
  obtain ⟨gone, unfit⟩ : p.tables = none ∧ (c.integers p.context).all fitsWord = false := by
    unfold Definite at indefinite
    simpa using indefinite
  rcases h.cases with ⟨-, gone'⟩ | ⟨t, t', there, -, -⟩
  · intro o ho
    rcases List.mem_append.mp ho with ho | ho
    · exact fails_without_tables gone hc unfit o ho
    · rw [← h.context] at unfit
      exact fails_without_tables gone' hc unfit o ho
  · rw [gone] at there
    cases there

/-! ## Calls -/

section

variable (h : Twin R p p') (hc : c.Twins p.context R A c')
include h hc

theorem Twin.attempt (conn conn' : Connection) :
    Option.Rel R (p.attempt conn c).1 (p'.attempt conn' c').1 ∧
      p.Ends c A (p.attempt conn c).2 (p'.attempt conn' c').2 ∧
      (conn'.knows c' = conn.knows c → SameEnd A (p.attempt conn c).2 (p'.attempt conn' c').2) := by
  rcases h.cases with ⟨gone, gone'⟩ | ⟨t, t', there, there', related⟩
  · rw [attempt_of_none gone, attempt_of_none gone', h.context, hc.outline]
    have refl (o : Except Fault Answer) : SameEnd A o o := by
      cases o with
      | error f => exact .error f
      | ok a => exact .ok (hc.same a)
    refine ⟨.none, ?_, ?_⟩
    · by_cases fits : (c.integers p.context).all fitsWord = true
      · left
        rw [Call.withoutTables_of_fits fits (conn'.knows c') (conn.knows c)]
        exact refl _
      · right
        rw [Bool.not_eq_true] at fits
        refine ⟨?_, Call.fails_of_unfit fits _, Call.fails_of_unfit fits _⟩
        rintro (present | fits')
        · exact present gone
        · rw [fits] at fits'
          cases fits'
    · intro knows
      rw [knows]
      exact refl _
  · have agrees := hc.effect t t' related
    rw [attempt_some there, attempt_some there', h.context]
    unfold Call.make
    generalize c.effect p.context t = x, c'.effect p.context t' = y at agrees
    cases agrees with
    | error f => exact ⟨.some related, Or.inl (.error f), fun _ => .error f⟩
    | ok tables answers => exact ⟨.some tables, Or.inl (.ok answers), fun _ => .ok answers⟩

theorem Twin.after (conn conn' : Connection) (idle idle' : List Connection) :
    Twin R { p with tables := (p.attempt conn c).1, connections := idle }
      { p' with tables := (p'.attempt conn' c').1, connections := idle' } :=
  ⟨h.settings, h.clock, (h.attempt hc conn conn').1⟩

/-- Calls that come out alike at one stage prepare the same. -/
theorem Twin.transactions (stage : ∀ a a', A a a' → a'.stage = a.stage)
    {out out' : Except Fault Answer} (ends : SameEnd A out out') :
    c'.transactions p'.context out' = c.transactions p.context out := by
  rw [h.context]
  exact Call.transactions_congr hc.outline hc.forms stage ends

/-- On connections that agree calls come out alike in any case, and leave such connections. -/
theorem Twin.call_of_agree (stage : ∀ a a', A a a' → a'.stage = a.stage)
    (first : ∀ form, c.forms.head? = some form → S form)
    (idle : List.Forall₂ (Agree S) p.connections p'.connections) :
    List.Forall₂ (Agree S) (p.call c).1.connections (p'.call c').1.connections ∧
      SameEnd A (p.call c).2.outcome (p'.call c').2.outcome := by
  have ends := (h.attempt hc (.next p.connections) (.next p'.connections)).2.2
    ((next_agree idle).knows hc.forms first)
  refine ⟨?_, ends⟩
  show List.Forall₂ (Agree S)
    ((c.transactions p.context (p.attempt (.next p.connections) c).2).foldl Connection.turn
      p.connections)
    ((c'.transactions p'.context (p'.attempt (.next p'.connections) c').2).foldl Connection.turn
      p'.connections)
  rw [h.transactions hc stage ends]
  exact turns_agree idle _

/-! ## Races -/

theorem Twin.callers (n : Nat) (used used' : List Connection) :
    Twin R (p.callers c n used).1 (p'.callers c' n used').1 ∧
      List.Forall₂ (p.Ends c A) ((p.callers c n used).2.map (·.outcome))
        ((p'.callers c' n used').2.map (·.outcome)) := by
  induction n generalizing p p' used used' with
  | zero => exact ⟨⟨h.settings, h.clock, h.tables⟩, .nil⟩
  | succ n ih =>
    obtain ⟨conn, idle, rest, heq⟩ := p.callers_succ c n used
    obtain ⟨conn', idle', rest', heq'⟩ := p'.callers_succ c' n used'
    obtain ⟨last, others⟩ := ih (h.after hc conn conn' idle idle') hc rest rest'
    rw [heq, heq']
    refine ⟨last, .cons (h.attempt hc conn conn').2.1 (others.imp ?_)⟩
    rintro o o' (ends | ⟨indefinite, fails⟩)
    · exact Or.inl ends
    · exact Or.inr ⟨fun definite => indefinite (definite.attempt conn idle), fails⟩

theorem Twin.seats (stage : ∀ a a', A a a' → a'.stage = a.stage) {used used' : List Connection}
    {out out' : Except Fault Answer} (ends : SameEnd A out out')
    (idle : List.Forall₂ (Agree S) p.connections p'.connections)
    (hused : List.Forall₂ (Agree S) used used') :
    List.Forall₂ (Agree S) (p.seats c used out).1 (p'.seats c' used' out').1 ∧
      List.Forall₂ (Agree S) (p.seats c used out).2 (p'.seats c' used' out').2 := by
  obtain ⟨conn, left, spent⟩ := draw_agree (poolSize p.settings + overflow) idle hused
  unfold Portal.seats
  rw [h.transactions hc stage ends, h.settings]
  cases c.transactions p.context out with
  | nil => exact ⟨idle, hused⟩
  | cons forms more => exact ⟨left, List.rel_append spent (.cons (conn.prepare _) .nil)⟩

/-- So do the callers of a race. -/
theorem Twin.callers_of_agree (stage : ∀ a a', A a a' → a'.stage = a.stage)
    (first : ∀ form, c.forms.head? = some form → S form)
    (idle : List.Forall₂ (Agree S) p.connections p'.connections) (n : Nat)
    {used used' : List Connection} (hused : List.Forall₂ (Agree S) used used') :
    List.Forall₂ (Agree S) (p.callers c n used).1.connections
        (p'.callers c' n used').1.connections ∧
      List.Forall₂ (SameEnd A) ((p.callers c n used).2.map (·.outcome))
        ((p'.callers c' n used').2.map (·.outcome)) := by
  induction n generalizing p p' used used' with
  | zero =>
    refine ⟨?_, .nil⟩
    show List.Forall₂ (Agree S) ((p.connections ++ used).take (poolSize p.settings))
      ((p'.connections ++ used').take (poolSize p'.settings))
    rw [h.settings]
    exact List.forall₂_take _ (List.rel_append idle hused)
  | succ n ih =>
    have limit : poolSize p'.settings + overflow = poolSize p.settings + overflow := by
      rw [h.settings]
    rw [callers_eq p, callers_eq p', limit]
    have conn := (draw_agree (poolSize p.settings + overflow) idle hused).1
    have ends := (h.attempt hc _ _).2.2 (conn.knows hc.forms first)
    obtain ⟨idle, hused⟩ := h.seats hc stage ends idle hused
    obtain ⟨conns, others⟩ := ih (h.after hc _ _ _ _) hc idle hused
    exact ⟨conns, .cons ends others⟩

end

/-! ## Steps without calls -/

variable {s : Step}

/-- Steps that make no call leave portals as they are to each other. -/
theorem Twin.step_of_quiet (h : Twin R p p') (empty : R .empty .empty) (quiet : s.call? = none) :
    Twin R (p.step s).1 (p'.step s).1 ∧ (p'.step s).2.log = (p.step s).2.log ∧
      (s ≠ .state → (p'.step s).2.outcome = (p.step s).2.outcome) := by
  cases s with
  | advance ms =>
    have same : p'.clock + ms = p.clock + ms := by rw [h.clock]
    exact ⟨⟨h.settings, same, h.tables⟩, rfl, fun _ => congrArg Outcome.clock same⟩
  | migrate =>
    refine ⟨⟨h.settings, h.clock, ?_⟩, rfl, fun _ => rfl⟩
    show Option.Rel R (some (p.tables.getD .empty)) (some (p'.tables.getD .empty))
    rcases h.cases with ⟨gone, gone'⟩ | ⟨t, t', there, there', related⟩
    · rw [gone, gone']
      exact .some empty
    · rw [there, there']
      exact .some related
  | dropSchema => exact ⟨⟨h.settings, h.clock, .none⟩, rfl, fun _ => rfl⟩
  | state => exact ⟨⟨h.settings, h.clock, h.tables⟩, rfl, fun shown => absurd rfl shown⟩
  | call c => cases quiet
  | race n c => cases quiet

theorem agree_of_quiet (idle : List.Forall₂ (Agree S) p.connections p'.connections)
    (quiet : s.call? = none) :
    List.Forall₂ (Agree S) (p.step s).1.connections (p'.step s).1.connections := by
  cases s with
  | advance ms => exact idle
  | call c => cases quiet
  | race n c => cases quiet
  | _ => exact turn_agree idle []

end Portal

end AccountPortal

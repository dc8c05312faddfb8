import AccountPortal.Proofs.Purge.Calls
import AccountPortal.Proofs.Twin.Steps

/-!
# A purge is invisible

A portal that was purged and one that was not, run side by side: while the clock does not go back
and nothing is created under the keys of rows that the purge removed, they stay alike (`Veiled`) and
each step comes out the same on both, unless it tells how much it removes or shows the tables:

    Veiled before after p p' → Veiled before after (p.step s).1 (p'.step s).1              (step)

There is one exception, as the purge also has its turns of the connections. Without tables a call
that binds an integer out of range fails on both, but in which of two ways depends on what its
connection has prepared.
-/

namespace AccountPortal.Portal

open Tables

/-! ## Steps -/

/-- A step that does not put the clock back. -/
def Step.Forward : Step → Prop
  | .advance ms => 0 ≤ ms
  | _ => True

def Step.Spares (before after : Tables) (s : Step) : Prop :=
  ∀ c, s.call? = some c → c.Spares before after

/-- A step that neither shows the tables nor tells how much it removes from them. -/
def Step.Silent (s : Step) : Prop := s ≠ .state ∧ ∀ c, s.call? = some c → c.countsRemoved = false

/-! ## Two portals -/

/-- Both without tables, or with tables that differ in what is gone. -/
inductive Veil (before after : Tables) : Option Tables → Option Tables → Prop where
  | gone : Veil before after none none
  | there {t t' : Tables} (shed : Shed before after t t') : Veil before after (some t) (some t')

structure Veiled (before after : Tables) (p p' : Portal) : Prop where
  settings : p'.settings = p.settings
  clock : p'.clock = p.clock
  dead : Dead before after p.clock
  tables : Veil before after p.tables p'.tables

variable {before after : Tables} {p p' : Portal} {c : Call}

theorem Veiled.context (h : Veiled before after p p') : p'.context = p.context := by
  unfold Portal.context
  rw [h.settings, h.clock]

theorem Veiled.attempt (h : Veiled before after p p') (spares : c.Spares before after)
    (conn conn' : Connection) :
    Veil before after (p.attempt conn c).1 (p'.attempt conn' c).1 ∧
      (c.countsRemoved = false → p.Definite c →
        (p'.attempt conn' c).2 = (p.attempt conn c).2) := by
  cases ht : p.tables with
  | none =>
    have ht' : p'.tables = none := by
      have veil := h.tables
      rw [ht] at veil
      generalize p'.tables = tables' at veil
      cases veil
      rfl
    have like : p.Like p' := ⟨h.settings, h.clock, ht'.trans ht.symm⟩
    rw [(attempt_none ht conn c).1, (attempt_none ht' conn' c).1]
    refine ⟨.gone, ?_⟩
    intro _ definite
    rcases definite with present | fits
    · exact absurd ht present
    · rw [like.attempt, attempt_none_of_fits ht conn' conn fits]
  | some t =>
    obtain ⟨t', ht', shed⟩ : ∃ t', p'.tables = some t' ∧ Shed before after t t' := by
      have veil := h.tables
      rw [ht] at veil
      generalize p'.tables = tables' at veil
      cases veil with
      | there shed => exact ⟨_, rfl, shed⟩
    have dead : Dead before after p.context.clock := h.dead
    obtain ⟨left, same⟩ := Call.make_of_shed dead spares shed
    rw [attempt_some ht, attempt_some ht', h.context]
    exact ⟨.there left, fun silent _ => same silent⟩

theorem Veiled.call (h : Veiled before after p p') (spares : c.Spares before after) :
    Veiled before after (p.call c).1 (p'.call c).1 :=
  ⟨h.settings, h.clock, h.dead, (h.attempt spares _ _).1⟩

/-! ## Races -/

theorem Veiled.callers (h : Veiled before after p p') (spares : c.Spares before after) (n : Nat)
    (used used' : List Connection) :
    Veiled before after (p.callers c n used).1 (p'.callers c n used').1 ∧
      (c.countsRemoved = false → p.Definite c →
        (p'.callers c n used').2.map (·.outcome) = (p.callers c n used).2.map (·.outcome)) := by
  induction n generalizing p p' used used' with
  | zero => exact ⟨⟨h.settings, h.clock, h.dead, h.tables⟩, fun _ _ => rfl⟩
  | succ n ih =>
    obtain ⟨conn, idle, rest, heq⟩ := p.callers_succ c n used
    obtain ⟨conn', idle', rest', heq'⟩ := p'.callers_succ c n used'
    obtain ⟨veil, first⟩ := h.attempt spares conn conn'
    let q : Portal := { p with tables := (p.attempt conn c).1, connections := idle }
    let q' : Portal := { p' with tables := (p'.attempt conn' c).1, connections := idle' }
    have next : Veiled before after q q' := ⟨h.settings, h.clock, h.dead, veil⟩
    obtain ⟨last, others⟩ := ih next rest rest'
    rw [heq, heq']
    refine ⟨last, ?_⟩
    intro silent definite
    have firsts : (p'.attempt conn' c).2 = (p.attempt conn c).2 := first silent definite
    rw [List.map_cons, List.map_cons, others silent (definite.attempt conn idle)]
    show (p'.attempt conn' c).2 :: _ = (p.attempt conn c).2 :: _
    rw [firsts]

theorem Veiled.race (h : Veiled before after p p') (spares : c.Spares before after) (n : Nat) :
    Veiled before after (p.step (.race n c)).1 (p'.step (.race n c)).1 ∧
      (c.countsRemoved = false → p.Definite c →
        (p'.step (.race n c)).2.outcome = (p.step (.race n c)).2.outcome) := by
  have holds : p'.holdsRaces = p.holdsRaces := by
    unfold holdsRaces
    rw [h.settings]
  rcases race_alike (c := c) holds rfl n with ⟨o, -, hp, hp'⟩ | ⟨hp, hp'⟩
  · rw [hp, hp']
    exact ⟨h, fun _ _ => rfl⟩
  · obtain ⟨last, outcomes⟩ := h.callers spares n [] []
    rw [hp, hp']
    refine ⟨last, ?_⟩
    intro silent definite
    exact congrArg Outcome.raced (outcomes silent definite)

/-! ## Runs -/

theorem Veiled.migrate (h : Veiled before after p p') :
    Veiled before after p.migrate.1 p'.migrate.1 := by
  refine ⟨h.settings, h.clock, h.dead, ?_⟩
  show Veil before after (some (p.tables.getD .empty)) (some (p'.tables.getD .empty))
  have veil := h.tables
  generalize p.tables = tables, p'.tables = tables' at veil
  cases veil with
  | gone => exact .there (.refl _)
  | there shed => exact .there shed

/-- One step keeps two portals alike, and comes out the same if it is silent. -/
theorem Veiled.step (h : Veiled before after p p') {s : Step} (forward : s.Forward)
    (spares : s.Spares before after) :
    Veiled before after (p.step s).1 (p'.step s).1 ∧
      (s.Silent → (∀ c, s.call? = some c → p.Definite c) →
        (p'.step s).2.outcome = (p.step s).2.outcome) := by
  cases s with
  | advance ms =>
    have later : Dead before after (p.clock + ms) :=
      h.dead.mono (Int.le_add_of_nonneg_right forward)
    have same : p'.clock + ms = p.clock + ms := by rw [h.clock]
    exact ⟨⟨h.settings, same, later, h.tables⟩, fun _ _ => congrArg Outcome.clock same⟩
  | call c =>
    refine ⟨h.call (spares c rfl), ?_⟩
    intro silent definite
    exact congrArg Outcome.called
      ((h.attempt (spares c rfl) _ _).2 (silent.2 c rfl) (definite c rfl))
  | race n c =>
    obtain ⟨last, same⟩ := h.race (spares c rfl) n
    exact ⟨last, fun silent definite => same (silent.2 c rfl) (definite c rfl)⟩
  | migrate => exact ⟨h.migrate, fun _ _ => rfl⟩
  | dropSchema => exact ⟨⟨h.settings, h.clock, h.dead, .gone⟩, fun _ _ => rfl⟩
  | state =>
    refine ⟨⟨h.settings, h.clock, h.dead, h.tables⟩, ?_⟩
    intro silent
    exact absurd rfl silent.1

theorem Veiled.run (h : Veiled before after p p') {steps : List Step}
    (forward : ∀ s ∈ steps, s.Forward) (spares : ∀ s ∈ steps, s.Spares before after) :
    Veiled before after (p.run steps).1 (p'.run steps).1 := by
  induction steps generalizing p p' with
  | nil => exact h
  | cons s rest ih =>
    have next := (h.step (forward s List.mem_cons_self) (spares s List.mem_cons_self)).1
    exact ih next (fun x hx => forward x (List.mem_cons_of_mem s hx))
      fun x hx => spares x (List.mem_cons_of_mem s hx)

/-! ## The purge -/

theorem veiled_purge {a : Answer} (there : p.tables = some before)
    (purged : (p.call .purgeExpired).2.outcome = .ok a)
    (left : (p.call .purgeExpired).1.tables = some after) :
    Veiled before after p (p.call .purgeExpired).1 := by
  cases he : Call.purgeExpired.effect p.context before with
  | error f =>
    rw [outcome_of_effect_error there he] at purged
    cases purged
  | ok r =>
    obtain ⟨u, b⟩ := r
    have hu := tables_of_effect_ok there he
    obtain ⟨-, rfl, -⟩ := Plan.effect_update_eq_ok_iff.mp he
    have hafter : after = (before.purge p.clock).1 := Option.some.inj (left.symm.trans hu)
    rw [hafter]
    refine ⟨rfl, rfl, dead_purge p.clock before, ?_⟩
    rw [there, hu]
    exact .there (shed_purge p.clock before)

end AccountPortal.Portal

namespace AccountPortal

open Portal

/-- Whether the dead rows were purged cannot be told. From any portal on which the purge of all
ledgers succeeds, what is done next is done with it and without it, with the clock never put back
and nothing created under a key of a row that the purge removed: then every step comes out the same
but for those that count what they remove or show the tables. Where the schema is dropped and a
call binds an integer out of range, every caller of it fails on both, with one of two faults. -/
theorem same_outcomes_after_purge {p : Portal} {before after : Tables} {a : Answer}
    (there : p.tables = some before) (purged : (p.call .purgeExpired).2.outcome = .ok a)
    (left : (p.call .purgeExpired).1.tables = some after) (next : List Step)
    (forward : ∀ s ∈ next, s.Forward) (spares : ∀ s ∈ next, s.Spares before after) :
    let p' := (p.call .purgeExpired).1
    ∀ passed s later, next = passed ++ s :: later →
      let q := (p.run passed).1
      ∃ e e', (p.run next).2[passed.length]? = some e ∧
        (p'.run next).2[passed.length]? = some e' ∧
        (s.Silent → (∀ c, s.call? = some c → q.Definite c) → e'.outcome = e.outcome) ∧
        ∀ c, s.call? = some c → ¬ q.Definite c →
          ∀ o ∈ e.outcome.each ++ e'.outcome.each, Fails o := by
  rintro p' passed s later rfl q
  have here : s ∈ passed ++ s :: later := List.mem_append_right _ List.mem_cons_self
  have veiled : Veiled before after q (p'.run passed).1 :=
    (veiled_purge there purged left).run (fun x hx => forward x (List.mem_append_left _ hx))
      fun x hx => spares x (List.mem_append_left _ hx)
  refine ⟨_, _, p.run_entry passed s later, p'.run_entry passed s later,
    (veiled.step (forward s here) (spares s here)).2, ?_⟩
  intro c hc indefinite
  obtain ⟨gone, unfit⟩ : q.tables = none ∧ (c.integers q.context).all fitsWord = false := by
    unfold Definite at indefinite
    simpa using indefinite
  have gone' : (p'.run passed).1.tables = none := by
    have veil := veiled.tables
    rw [gone] at veil
    generalize (p'.run passed).1.tables = tables' at veil
    cases veil
    rfl
  intro o ho
  rcases List.mem_append.mp ho with ho | ho
  · exact fails_without_tables gone hc unfit o ho
  · rw [← veiled.context] at unfit
    exact fails_without_tables gone' hc unfit o ho

/-- A session that is dead and purged: a look-up of it, and then a session of another token. -/
theorem session_created_after_purge :
    let find (hash : String) : Call := .sessions (.find hash)
    let before : Tables := { Tables.empty with sessions := [⟨"s", "u", "h", 10, 0⟩] }
    let p : Portal := ⟨.standard, 20, some before, [.fresh]⟩
    let p' := (p.call .purgeExpired).1
    let passed : List Step :=
      [.call (find "h"), .advance 5, .call (.sessions (.create "t" "u" "i" none))]
    let next : List Step := passed ++ [.call (find "i")]
    p.tables = some before ∧ (p.call .purgeExpired).2.outcome = .ok (.purged 1 0 0 0) ∧
      p'.tables = some .empty ∧ (∀ s ∈ next, s.Forward) ∧
      (∀ s ∈ next, s.Spares before .empty) ∧
      ∃ e e', (p.run next).2[3]? = some e ∧ (p'.run next).2[3]? = some e' ∧
        e'.outcome = e.outcome := by
  intro find before p p' passed next
  have forward : ∀ s ∈ next, s.Forward := by simp [next, passed, Step.Forward]
  have spares : ∀ s ∈ next, s.Spares before .empty := by
    simp [next, passed, find, before, Step.Spares, Step.call?, Call.Spares, Gone]
  have there : p.tables = some before := rfl
  have purged : (p.call .purgeExpired).2.outcome = .ok (.purged 1 0 0 0) := rfl
  have left : (p.call .purgeExpired).1.tables = some .empty := rfl
  obtain ⟨e, e', he, he', same, -⟩ :=
    same_outcomes_after_purge there purged left next forward spares passed (.call (find "i")) [] rfl
  refine ⟨there, purged, left, forward, spares, e, e', he, he', same ⟨by simp, ?_⟩ ?_⟩
  · intro c hc
    cases hc
    rfl
  · intro c hc
    exact Or.inl (Option.some_ne_none _)

/-- A purge with nothing to remove takes its turns of three connections, of which one has prepared
the call that is made once the schema is dropped and the clock is out of range. -/
theorem outcomes_differ_after_purge :
    let verify : Call := .enrollments (.verifyOwner "u")
    let p := ((Portal.fresh .standard 1700000000000).run
      [.race 3 (.sessions (.find "h")), .call verify]).1
    let p' := (p.call .purgeExpired).1
    let next : List Step := [.dropSchema, .advance 9223372036854775807, .call verify]
    (p.call .purgeExpired).2.outcome = .ok (.purged 0 0 0 0) ∧
      (∀ s ∈ next, s.Forward ∧ s.Silent ∧ ∀ before after, s.Spares before after) ∧
      (p'.run next).2.map (·.outcome) ≠ (p.run next).2.map (·.outcome) := by
  intro verify p p' next
  have silent : ∀ s ∈ next, s.Forward ∧ s.Silent ∧ ∀ before after, s.Spares before after := by
    simp [next, verify, Step.Forward, Step.Silent, Step.Spares, Step.call?, Call.Spares,
      Call.countsRemoved]
  have unpurged : (p.run next).2.map (·.outcome) =
      [.done, .clock 9223373736854775807, .called (.error .schemaMissing)] := by
    simp only [verify, p, next]
    rfl
  have purged : (p'.run next).2.map (·.outcome) =
      [.done, .clock 9223373736854775807, .called (.error .integerOutOfRange)] := by
    simp only [verify, p, p', next]
    rfl
  refine ⟨rfl, silent, ?_⟩
  rw [unpurged, purged]
  intro same
  cases same

end AccountPortal

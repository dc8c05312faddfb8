import AccountPortal.Proofs.Repetition.Races

/-!
# Steps and the calls they make

A step of a run makes one call, once or many times, or none. What its callers come out with depends
on their connections in one case only: without tables, a call that binds an integer out of range
fails in one of two ways (`fails_without_tables`).
-/

namespace AccountPortal.Portal

/-- The call that a step makes, once or many times. -/
def Step.call? : Step → Option Call
  | .call c | .race _ c => some c
  | _ => none

/-- What the outcome of a call takes that does not depend on its connection: tables, or integers in
range. -/
def Definite (p : Portal) (c : Call) : Prop :=
  p.tables ≠ none ∨ (c.integers p.context).all fitsWord = true

/-- What each caller of a step came out with. -/
def Outcome.each : Outcome → List (Except Fault Answer)
  | .called o => [o]
  | .raced os => os
  | _ => []

def Fails (o : Except Fault Answer) : Prop :=
  o = .error .integerOutOfRange ∨ o = .error .schemaMissing

variable {p : Portal} {c : Call}

/-- Tables that are there stay there, and the integers of a call do not depend on them. -/
theorem Definite.attempt (h : p.Definite c) (conn : Connection) (idle : List Connection) :
    Definite { p with tables := (p.attempt conn c).1, connections := idle } c := by
  rcases h with present | fits
  · obtain ⟨t, ht⟩ := Option.ne_none_iff_exists'.mp present
    left
    show (p.attempt conn c).1 ≠ none
    rw [attempt_some ht]
    exact Option.some_ne_none _
  · exact Or.inr fits

/-! ## Runs -/

/-- What a step within a run comes out with. -/
theorem run_entry (p : Portal) (passed : List Step) (s : Step) (later : List Step) :
    (p.run (passed ++ s :: later)).2[passed.length]? = some ((p.run passed).1.step s).2 := by
  induction passed generalizing p with
  | nil => rfl
  | cons x passed ih => exact ih (p.step x).1

/-! ## Without tables -/

/-- A call that binds an integer out of range fails without tables, for each caller. -/
theorem fails_without_tables (gone : p.tables = none) {s : Step} (hc : s.call? = some c)
    (unfit : (c.integers p.context).all fitsWord = false) :
    ∀ o ∈ (p.step s).2.outcome.each, Fails o := by
  have attempts : ∀ q, p.Like q → ∀ conn,
      (q.attempt conn c).1 = q.tables ∧ Fails (q.attempt conn c).2 := by
    intro q like conn
    have hq : q.tables = none := like.tables.trans gone
    rw [(attempt_none hq conn c).1, hq, like.attempt, attempt_none_of_unfit gone conn unfit]
    refine ⟨rfl, ?_⟩
    cases conn.knows c
    · exact Or.inr rfl
    · exact Or.inl rfl
  cases s with
  | call c' =>
    cases hc
    intro o ho
    rw [List.mem_singleton.mp ho]
    exact (attempts p (Like.refl p) _).2
  | race n c' =>
    cases hc
    have planned : c.refusal? = none := by
      cases hf : c.refusal? with
      | none => rfl
      | some f =>
        -- a form that is refused leaves no integers to bind
        unfold Call.integers at unfit
        rw [plan_of_refusal p.context hf] at unfit
        cases unfit
    rw [step_race p (Or.inr planned)]
    intro o ho
    split at ho
    · obtain ⟨r, hr, rfl⟩ := List.mem_map.mp ho
      exact (callers_steady (O := Fails) attempts n [] (Like.refl p)).2 r hr
    · cases ho
  | _ => cases hc

end AccountPortal.Portal

import AccountPortal.Proofs.Secret.Calls

/-!
# Logs do not depend on secrets

Two runs of new portals that take the same steps with other secrets: password hashes, seed phrases,
keys and challenges differ at will, hashes that are looked up go over into each other, and tokens of
nodes differ in such a way that checks come to the same end. Both runs log the same
(`logs_do_not_depend_on_secrets`): the tables stay the same but for their secrets, and what is
logged of a call tells no such tables apart.
-/

namespace AccountPortal

namespace Portal

open Connection (Agree)

variable (m : Hashes)

/-! ## Steps -/

/-- The same step with other secrets; the callers of a race have them in common. -/
def Step.withSecrets (x : Secrets) : Step → Step
  | .call c => .call (c.withSecrets m x)
  | .race n c => .race n (c.withSecrets m x)
  | s => s

def Step.SameBut (s s' : Step) : Prop := ∃ x, s' = s.withSecrets m x

/-- A step that checks a token checks it to one end on both portals. -/
def Step.ChecksAlike (p p' : Portal) (s s' : Step) : Prop :=
  ∀ c c' t t', s.call? = some c → s'.call? = some c' → p.tables = some t → p'.tables = some t' →
    c.ChecksAlike c' t t'

/-- Only checks of tokens have anything to come to. -/
theorem Step.checksAlike_of_ne {p p' : Portal} {s s' : Step}
    (other : ∀ id raw, s.call? ≠ some (.enrollments (.checkToken id raw))) :
    s.ChecksAlike p p' s' := by
  rintro c c' t t' hc - - - r r' rfl - id raw raw' rfl
  exact absurd hc (other id raw)

/-- In two runs side by side, every check comes to one end. -/
def ChecksAlike (p p' : Portal) : List Step → List Step → Prop
  | s :: rest, s' :: rest' =>
    s.ChecksAlike p p' s' ∧ ChecksAlike (p.step s).1 (p'.step s').1 rest rest'
  | _, _ => True

/-- What is logged of a race is logged of its callers one by one. -/
theorem logs_of_callers (p : Portal) (c : Call) (n : Nat) (used : List Connection) :
    (p.callers c n used).2.map (·.log) =
      ((p.callers c n used).2.map (·.outcome)).map (c.report p.context) := by
  induction n generalizing p used with
  | zero => rfl
  | succ n ih =>
    obtain ⟨conn, idle, rest, heq⟩ := p.callers_succ c n used
    rw [heq, List.map_cons, List.map_cons, List.map_cons, ih]
    rfl

variable {m} {p p' : Portal}

theorem logs_eq_of_ends {ctx : Context} {c : Call} {x : Secrets}
    {outs outs' : List (Except Fault Answer)} (h : List.Forall₂ (SameEnd Answer.Alike) outs outs') :
    outs'.map ((c.withSecrets m x).report ctx) = outs.map (c.report ctx) := by
  induction h with
  | nil => rfl
  | cons first _ ih => rw [List.map_cons, List.map_cons, ih, Call.report_withSecrets first]

/-- Portals whose tables are the same but for secrets, and whose connections know the same. -/
structure Twin.Secretly (m : Hashes) (p p' : Portal) : Prop where
  twin : Twin (Tables.Alike m) p p'
  idle : List.Forall₂ (Agree fun _ => True) p.connections p'.connections

theorem Twin.Secretly.step_of_quiet (h : Twin.Secretly m p p') {s : Step}
    (quiet : s.call? = none) :
    Twin.Secretly m (p.step s).1 (p'.step s).1 ∧ (p'.step s).2.log = (p.step s).2.log := by
  obtain ⟨twin, logs, -⟩ := h.twin.step_of_quiet (Tables.alike_empty m) quiet
  exact ⟨⟨twin, agree_of_quiet h.idle quiet⟩, logs⟩

theorem Twin.Secretly.step (h : Twin.Secretly m p p') (inj : m.Injective) (s : Step) (x : Secrets)
    (checks : s.ChecksAlike p p' (s.withSecrets m x)) :
    Twin.Secretly m (p.step s).1 (p'.step (s.withSecrets m x)).1 ∧
      (p'.step (s.withSecrets m x)).2.log = (p.step s).2.log := by
  have known (c : Call) : ∀ form, c.forms.head? = some form → True := fun _ _ => trivial
  have checked (c : Call) (hs : s.call? = some c)
      (hs' : (s.withSecrets m x).call? = some (c.withSecrets m x)) :
      Twin (fun t t' => Tables.Alike m t t' ∧ c.ChecksAlike (c.withSecrets m x) t t') p p' := by
    refine ⟨h.twin.settings, h.twin.clock, ?_⟩
    rcases h.twin.cases with ⟨gone, gone'⟩ | ⟨t, t', there, there', alike⟩
    · rw [gone, gone']
      exact .none
    · rw [there, there']
      exact .some ⟨alike, checks c _ t t' hs hs' there there'⟩
  cases s with
  | call c =>
    have twin := checked c rfl rfl
    have twins := Call.twins_withSecrets (x := x) inj p.context c
    obtain ⟨idle, ends⟩ := twin.call_of_agree twins (fun _ _ => Answer.Alike.stage) (known c) h.idle
    refine ⟨⟨(twin.after twins _ _ _ _).mono fun _ _ both => both.1, idle⟩, ?_⟩
    show (c.withSecrets m x).report p'.context _ = c.report p.context _
    rw [h.twin.context]
    exact Call.report_withSecrets ends p.context c
  | race n c =>
    have twin := checked c rfl rfl
    have twins := Call.twins_withSecrets (x := x) inj p.context c
    show Twin.Secretly m _ (p'.step (.race n (c.withSecrets m x))).1 ∧
      (p'.step (.race n (c.withSecrets m x))).2.log = _
    rcases race_alike twin.holdsRaces (Call.refusal?_withSecrets m x c) n with
      ⟨o, -, hp, hp'⟩ | ⟨hp, hp'⟩
    · rw [hp, hp']
      exact ⟨h, rfl⟩
    · rw [hp, hp']
      obtain ⟨idle, ends⟩ := twin.callers_of_agree twins (fun _ _ => Answer.Alike.stage) (known c)
        h.idle n (.nil (R := Agree fun _ => True))
      refine ⟨⟨(twin.callers twins n [] []).1.mono fun _ _ both => both.1, idle⟩, ?_⟩
      show List.flatMap _ _ = List.flatMap _ _
      rw [List.flatMap_def, List.flatMap_def]
      unfold race
      rw [logs_of_callers, logs_of_callers, h.twin.context, logs_eq_of_ends ends]
  | _ => exact h.step_of_quiet rfl

theorem Twin.Secretly.run (h : Twin.Secretly m p p') (inj : m.Injective) {steps steps' : List Step}
    (same : List.Forall₂ (Step.SameBut m) steps steps') (checks : ChecksAlike p p' steps steps') :
    (p'.run steps').2.map (·.log) = (p.run steps).2.map (·.log) := by
  induction same generalizing p p' with
  | nil => rfl
  | @cons s s' rest rest' first _ ih =>
    obtain ⟨x, rfl⟩ := first
    obtain ⟨next, log⟩ := h.step inj s x checks.1
    exact congrArg₂ List.cons log (ih next checks.2)

end Portal

open Portal

/-- Logs do not depend on secrets. Two runs of new portals take the same steps but for secrets:
hashes of sessions and of email tokens go over into each other by a map for each ledger that keeps
them apart, other secrets differ at will, and tokens of nodes are checked to the same end in both.
Then both runs log the same, step by step. -/
theorem logs_do_not_depend_on_secrets (settings : Settings) (clock : Int) {m : Hashes}
    (inj : m.Injective) {steps steps' : List Step}
    (same : List.Forall₂ (Step.SameBut m) steps steps')
    (checks : ChecksAlike (.fresh settings clock) (.fresh settings clock) steps steps') :
    ((Portal.fresh settings clock).run steps').2.map (·.log) =
      ((Portal.fresh settings clock).run steps).2.map (·.log) := by
  have start : Twin.Secretly m (Portal.fresh settings clock) (Portal.fresh settings clock) :=
    ⟨⟨rfl, rfl, .some (Tables.alike_empty m)⟩, .cons (.refl _) .nil⟩
  exact start.run inj same checks

/-- A user, a session and a node whose token is checked, with two sets of secrets. -/
theorem logs_with_other_token :
    let m : Hashes := ⟨fun hash => "x" ++ hash, fun hash => "y" ++ hash⟩
    let steps (password session token : String) : List Step :=
      [.call (.accounts (.create "u" "u@x" (some password) none false)),
        .race 2 (.sessions (.create "s" "u" session none)),
        .call (.enrollments (.enroll "n" (.text "agent") "u" "u@x" (Token.hash token) false)),
        .call (.enrollments (.checkToken "n" token)), .call (.accounts (.verifyEmail "u"))]
    let p := Portal.fresh .standard 0
    let q (password session token : String) := (p.run (steps password session token)).2
    m.Injective ∧
      List.Forall₂ (Step.SameBut m) (steps "one" "h" "red") (steps "two" "xh" "blue") ∧
      ChecksAlike p p (steps "one" "h" "red") (steps "two" "xh" "blue") ∧
      (q "two" "xh" "blue").map (·.log) = (q "one" "h" "red").map (·.log) ∧
      ((q "one" "h" "red").map (·.log))[2]? =
        some [⟨.info, .enrollments, "Node n enrolled for u (state=pending)"⟩] := by
  intro m steps p q
  have inj : m.Injective :=
    ⟨fun _ _ => (String.append_right_inj "x").mp, fun _ _ => (String.append_right_inj "y").mp⟩
  have same : List.Forall₂ (Step.SameBut m) (steps "one" "h" "red") (steps "two" "xh" "blue") := by
    let x : Secrets := ⟨some "two", "", Token.hash "blue", "blue", "", "", "", ""⟩
    exact .cons ⟨x, rfl⟩ (.cons ⟨x, rfl⟩ (.cons ⟨x, rfl⟩ (.cons ⟨x, rfl⟩ (.cons ⟨x, rfl⟩ .nil))))
  have checks : ChecksAlike p p (steps "one" "h" "red") (steps "two" "xh" "blue") := by
    refine ⟨Step.checksAlike_of_ne nofun, Step.checksAlike_of_ne nofun,
      Step.checksAlike_of_ne nofun, ?_, Step.checksAlike_of_ne nofun, trivial⟩
    simp only [p]
    rintro _ _ _ _ ⟨⟩ ⟨⟩ ⟨⟩ ⟨⟩ _ _ ⟨⟩ ⟨⟩ id raw raw' ⟨⟩ ⟨⟩ e e' ⟨⟩ ⟨⟩
    rw [Enrollments.opens_of_registered rfl, Enrollments.opens_of_registered rfl]
  have enrolled : ((q "one" "h" "red").map (·.log))[2]? =
      some [⟨.info, .enrollments, "Node n enrolled for u (state=pending)"⟩] := by
    simp only [q, p, steps]
    rfl
  exact ⟨inj, same, checks, logs_do_not_depend_on_secrets .standard 0 inj same checks, enrolled⟩

end AccountPortal

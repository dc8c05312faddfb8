import AccountPortal.Proofs.Effect

/-!
# Histories

The history of a run is the list of what happened in it: every call of every caller with its
outcome, and every change of the schema, each with the time of the clock. `Event.Moves` says what
one event does to the tables, and a `Course` is a sequence of events one after another. Every run
is a course, so what every event keeps holds after every run:

    Course p.settings p.tables (p.history steps) (p.run steps).1.tables        (run_course)
-/

namespace AccountPortal

inductive Deed where
  | call (c : Call) (outcome : Except Fault Answer)
  | migrate
  | dropSchema

structure Event where
  clock : Int
  deed : Deed

/-- What happens in a step that has this outcome. The callers of a race come one after another,
and a form that is refused is refused to the first of them. -/
def Portal.Step.deeds : Portal.Step → Portal.Outcome → List Deed
  | .call c, .called out => [.call c out]
  | .race _ c, .called out => [.call c out]
  | .race _ c, .raced outs => outs.map (.call c)
  | .migrate, _ => [.migrate]
  | .dropSchema, _ => [.dropSchema]
  | _, _ => []

/-- How far a step moves the clock. -/
def Portal.Step.lapse : Portal.Step → Int
  | .advance ms => ms
  | _ => 0

namespace Portal

def happenings (p : Portal) (s : Step) : List Event :=
  (s.deeds (p.step s).2.outcome).map fun d => ⟨p.clock, d⟩

/-- What happens in a run, in order. -/
def history (p : Portal) : List Step → List Event
  | [] => []
  | s :: rest => p.happenings s ++ (p.step s).1.history rest

end Portal

/-! ## Courses -/

/-- What an event does to the tables; a call is made on some connection. -/
def Event.Moves (settings : Settings) (e : Event) (before after : Option Tables) : Prop :=
  match e.deed with
  | .call c out => ∃ conn, Portal.attempt ⟨settings, e.clock, before, []⟩ conn c = (after, out)
  | .migrate => after = some (before.getD .empty)
  | .dropSchema => after = none

namespace Event

variable {settings : Settings} {now : Int} {c : Call} {a : Answer} {f : Fault} {t : Tables}
  {before after : Option Tables}

theorem moves_ok (h : Event.Moves settings ⟨now, .call c (.ok a)⟩ (some t) after) :
    ∃ u, after = some u ∧ c.effect ⟨settings, now⟩ t = .ok (u, a) := by
  obtain ⟨conn, h⟩ := h
  cases he : c.effect ⟨settings, now⟩ t with
  | error f =>
    rw [Portal.attempt_eq_of_effect_error (p := ⟨settings, now, some t, []⟩) rfl conn he] at h
    cases h
  | ok r =>
    obtain ⟨u, b⟩ := r
    rw [Portal.attempt_eq_of_effect_ok (p := ⟨settings, now, some t, []⟩) rfl conn he] at h
    cases h
    exact ⟨u, rfl, rfl⟩

/-- A call that fails leaves the tables as they were. -/
theorem moves_error (h : Event.Moves settings ⟨now, .call c (.error f)⟩ before after) :
    after = before := by
  obtain ⟨conn, h⟩ := h
  unfold Portal.attempt at h
  split at h
  · cases h
  · cases h
    rfl

/-- A call that is answered without tables leaves none. -/
theorem moves_none (h : Event.Moves settings ⟨now, .call c (.ok a)⟩ none after) :
    after = none ∧ c.plan ⟨settings, now⟩ = .ok (.answered a) := by
  obtain ⟨conn, h⟩ := h
  have known := Portal.attempt_none (p := ⟨settings, now, none, []⟩) rfl conn c
  rw [h] at known
  exact ⟨known.1, known.2 a rfl⟩

theorem effect_of_moves {u : Tables}
    (h : Event.Moves settings ⟨now, .call c (.ok a)⟩ (some t) (some u)) :
    c.effect ⟨settings, now⟩ t = .ok (u, a) := by
  obtain ⟨v, hv, heffect⟩ := moves_ok h
  cases hv
  exact heffect

theorem outcome_of_moves {out : Except Fault Answer}
    (h : Event.Moves settings ⟨now, .call c out⟩ (some t) after) :
    out = (c.effect ⟨settings, now⟩ t).map Prod.snd := by
  obtain ⟨conn, h⟩ := h
  cases he : c.effect ⟨settings, now⟩ t with
  | error f =>
    rw [Portal.attempt_eq_of_effect_error (p := ⟨settings, now, some t, []⟩) rfl conn he] at h
    cases h
    rfl
  | ok r =>
    rw [Portal.attempt_eq_of_effect_ok (p := ⟨settings, now, some t, []⟩) rfl conn he] at h
    cases h
    rfl

/-- A call whose effect is known comes out so. -/
theorem eq_of_moves {u : Tables} {out : Except Fault Answer}
    (h : Event.Moves settings ⟨now, .call c out⟩ (some t) after)
    (heffect : c.effect ⟨settings, now⟩ t = .ok (u, a)) : after = some u ∧ out = .ok a := by
  obtain ⟨conn, h⟩ := h
  rw [Portal.attempt_eq_of_effect_ok (p := ⟨settings, now, some t, []⟩) rfl conn heffect] at h
  cases h
  exact ⟨rfl, rfl⟩

/-- Tables that stay there are as a call that is answered makes them, or else as they were. -/
theorem effect_or_eq_of_moves {e : Event} {u : Tables} (h : e.Moves settings (some t) (some u)) :
    (∃ c a, e.deed = .call c (.ok a) ∧ c.effect ⟨settings, e.clock⟩ t = .ok (u, a)) ∨
      (u = t ∧ ∀ c a, e.deed ≠ .call c (.ok a)) := by
  obtain ⟨now, deed⟩ := e
  cases deed with
  | migrate =>
    cases h
    exact Or.inr ⟨rfl, fun c a => Deed.noConfusion⟩
  | dropSchema => cases h
  | call c out =>
    cases out with
    | error f =>
      cases moves_error h
      exact Or.inr ⟨rfl, fun c a heq => by cases heq⟩
    | ok a => exact Or.inl ⟨c, a, rfl, effect_of_moves h⟩

/-- What every call that is answered keeps of the tables, every event keeps that leaves some. -/
theorem keep_of_moves {P : Tables → Prop} {e : Event} {u : Tables}
    (h : e.Moves settings (some t) (some u)) (ht : P t)
    (keep : ∀ (c : Call) (a : Answer), c.effect ⟨settings, e.clock⟩ t = .ok (u, a) → P u) :
    P u := by
  rcases effect_or_eq_of_moves h with ⟨c, a, -, heffect⟩ | ⟨rfl, -⟩
  · exact keep c a heffect
  · exact ht

/-- A part of the tables in which only some requests have a say is as one of them makes it, or else
as it was. -/
theorem asked_or_kept_of_moves {ρ γ : Type} {ask : ρ → Call} {part : Tables → γ} {e : Event}
    {u : Tables} (h : e.Moves settings (some t) (some u))
    (kept : ∀ {ctx : Context} {c : Call} {a : Answer}, c.effect ctx t = .ok (u, a) →
      (∀ r, c ≠ ask r) → part u = part t) :
    (∃ r a, e.deed = .call (ask r) (.ok a) ∧ (ask r).effect ⟨settings, e.clock⟩ t = .ok (u, a)) ∨
      (part u = part t ∧ ∀ r a, e.deed ≠ .call (ask r) (.ok a)) := by
  rcases effect_or_eq_of_moves h with ⟨c, a, hdeed, heffect⟩ | ⟨rfl, uncalled⟩
  · by_cases asked : ∃ r, c = ask r
    · obtain ⟨r, rfl⟩ := asked
      exact Or.inl ⟨r, a, hdeed, heffect⟩
    · refine Or.inr ⟨kept heffect fun r hr => asked ⟨r, hr⟩, ?_⟩
      intro r b hcall
      rw [hdeed] at hcall
      exact asked ⟨r, (Deed.call.inj hcall).1⟩
  · exact Or.inr ⟨rfl, fun r => uncalled (ask r)⟩

/-- Only dropping the schema takes tables away. -/
theorem exists_of_moves {e : Event} (h : e.Moves settings (some t) after)
    (kept : e.deed ≠ .dropSchema) : ∃ u, after = some u := by
  obtain ⟨now, deed⟩ := e
  cases deed with
  | migrate => exact ⟨_, h⟩
  | dropSchema => exact absurd rfl kept
  | call c out =>
    cases out with
    | error f => exact ⟨t, moves_error h⟩
    | ok a =>
      obtain ⟨u, hu, -⟩ := moves_ok h
      exact ⟨u, hu⟩

/-- Tables that were gone come back empty. -/
theorem eq_empty_of_moves {e : Event} {u : Tables} (h : e.Moves settings none (some u)) :
    u = .empty := by
  obtain ⟨now, deed⟩ := e
  cases deed with
  | migrate =>
    cases h
    rfl
  | dropSchema => cases h
  | call c out =>
    cases out with
    | error f => cases moves_error h
    | ok a => cases (moves_none h).1

end Event

/-- Events one after another, from the first tables to the last. -/
inductive Course (settings : Settings) (start : Option Tables) :
    List Event → Option Tables → Prop where
  | start : Course settings start [] start
  | step {h : List Event} {e : Event} {before after : Option Tables}
      (course : Course settings start h before) (moves : e.Moves settings before after) :
      Course settings start (h ++ [e]) after

namespace Course

variable {settings : Settings} {s t u : Option Tables}

theorem single {e : Event} (h : e.Moves settings s t) : Course settings s [e] t :=
  Course.step (h := []) .start h

theorem append {h h' : List Event} (first : Course settings s h t)
    (second : Course settings t h' u) : Course settings s (h ++ h') u := by
  induction second with
  | start => rwa [List.append_nil]
  | step _ moves ih =>
    rw [← List.append_assoc]
    exact .step ih moves

/-- An event of a course happens to the tables that the events before it leave. -/
theorem middle {h passed rest : List Event} {e : Event} (course : Course settings s h u)
    (heq : h = passed ++ e :: rest) :
    ∃ before after, Course settings s passed before ∧ e.Moves settings before after ∧
      Course settings after rest u := by
  induction course generalizing rest with
  | start => simp at heq
  | @step h x before after course moves ih =>
    rcases List.eq_nil_or_concat rest with rfl | ⟨rest', y, rfl⟩
    · obtain ⟨rfl, hx⟩ := List.append_inj' heq rfl
      cases hx
      exact ⟨before, after, course, moves, .start⟩
    · rw [List.concat_eq_append, ← List.cons_append, ← List.append_assoc] at heq
      obtain ⟨hh, hx⟩ := List.append_inj' heq rfl
      cases hx
      obtain ⟨t, v, first, now, last⟩ := ih hh
      rw [List.concat_eq_append]
      exact ⟨t, v, first, now, .step last moves⟩

/-- What was passed before an event of a course that keeps the schema is one that keeps it too. -/
theorem kept_before {h passed rest : List Event} {e : Event} (course : Course settings s h u)
    (kept : ∀ x ∈ h, x.deed ≠ .dropSchema) (heq : h = passed ++ e :: rest) :
    ∃ before after, Course settings s passed before ∧ (∀ x ∈ passed, x.deed ≠ .dropSchema) ∧
      e.Moves settings before after := by
  obtain ⟨before, after, first, moves, -⟩ := course.middle heq
  exact ⟨before, after, first, fun x hx => kept x (by rw [heq]; simp [hx]), moves⟩

/-- What new tables have and the events of a course keep, the tables it ends with have if those it
starts with do. -/
theorem invariant_of_mem {P : Tables → Prop} (hnew : P .empty) (hstart : ∀ t, s = some t → P t)
    {h : List Event} (course : Course settings s h u)
    (keep : ∀ e ∈ h, ∀ t v : Tables, e.Moves settings (some t) (some v) → P t → P v) :
    ∀ t, u = some t → P t := by
  induction course with
  | start => exact hstart
  | @step h e before after course moves ih =>
    rintro t rfl
    cases before with
    | none =>
      rw [Event.eq_empty_of_moves moves]
      exact hnew
    | some v =>
      have before := ih fun x hx => keep x (List.mem_append_left _ hx)
      exact keep e (by simp) v t moves (before v rfl)

/-- What new tables have, and every event keeps, the tables of a course have. -/
theorem invariant {P : Tables → Prop} (hnew : P .empty)
    (keep : ∀ (e : Event) (t u : Tables), e.Moves settings (some t) (some u) → P t → P u)
    {h : List Event} (course : Course settings (some .empty) h u) : ∀ t, u = some t → P t :=
  course.invariant_of_mem hnew (fun _ ht => Option.some.inj ht ▸ hnew) fun e _ => keep e

/-- While the schema is kept there are tables, and what every event keeps of them and of what
happened so far holds of both in the end. -/
theorem tracked {P : List Event → Tables → Prop} (hnew : P [] .empty)
    (keep : ∀ (h : List Event) (e : Event) (t u : Tables), P h t →
      e.Moves settings (some t) (some u) → P (h ++ [e]) u)
    {h : List Event} (course : Course settings (some .empty) h u)
    (kept : ∀ e ∈ h, e.deed ≠ .dropSchema) : ∃ t, u = some t ∧ P h t := by
  induction course with
  | start => exact ⟨.empty, rfl, hnew⟩
  | @step h e before after course moves ih =>
    obtain ⟨t, rfl, ht⟩ := ih fun x hx => kept x (List.mem_append_left _ hx)
    obtain ⟨v, rfl⟩ := Event.exists_of_moves moves (kept e (by simp))
    exact ⟨v, rfl, keep h e t v ht moves⟩

end Course

/-! ## Runs are courses -/

namespace Portal

variable (p : Portal)

theorem attempt_moves (conn : Connection) (c : Call) :
    Event.Moves p.settings ⟨p.clock, .call c (p.attempt conn c).2⟩ p.tables
      (p.attempt conn c).1 :=
  ⟨conn, rfl⟩

/-- A form that is refused is the fault of the call that brings it. -/
theorem plan_of_refusal {c : Call} {f : Fault} (ctx : Context) (h : c.refusal? = some f) :
    c.plan ctx = .error f := by
  unfold Call.refusal? at h
  split at h
  · next id form =>
    cases hp : Enrollments.patchOf form with
    | ok patch =>
      rw [hp] at h
      cases h
    | error issues =>
      rw [hp] at h
      cases h
      simp only [Call.plan, Enrollments.plan, hp]
      rfl
  · cases h

theorem attempt_of_refusal {c : Call} {f : Fault} (conn : Connection) (h : c.refusal? = some f) :
    p.attempt conn c = (p.tables, .error f) := by
  unfold attempt perform
  rw [plan_of_refusal _ h]

/-- A race that is held, with its entry. -/
def held (p : Portal) (n : Nat) (c : Call) : Portal × Entry :=
  ((p.race n c).1, ⟨.raced ((p.race n c).2.map (·.outcome)), (p.race n c).2.flatMap (·.log)⟩)

/-- The race of a form that is refused ends with its first caller. -/
theorem step_race_of_refusal {c : Call} {f : Fault} (hf : c.refusal? = some f) (n : Nat) :
    p.step (.race (n + 1) c) = (p, ⟨.called (.error f), []⟩) := by
  simp only [step, hf]

theorem step_race {c : Call} {n : Nat} (h : n = 0 ∨ c.refusal? = none) :
    p.step (.race n c) = if p.holdsRaces then p.held n c else (p, ⟨.unheld, []⟩) := by
  cases n with
  | zero => rfl
  | succ n =>
    have taken : c.refusal? = none := h.resolve_left (Nat.succ_ne_zero n)
    simp only [step, taken]
    rfl

/-- Where two portals hold races alike and two calls are refused alike, neither portal changes, or
the race is held at both. -/
theorem race_alike {p p' : Portal} {c c' : Call} (holds : p'.holdsRaces = p.holdsRaces)
    (refusal : c'.refusal? = c.refusal?) (n : Nat) :
    (∃ o, (o = .unheld ∨ ∃ f, o = .called (.error f)) ∧ p.step (.race n c) = (p, ⟨o, []⟩) ∧
      p'.step (.race n c') = (p', ⟨o, []⟩)) ∨
    (p.step (.race n c) = p.held n c ∧ p'.step (.race n c') = p'.held n c') := by
  by_cases taken : n = 0 ∨ c.refusal? = none
  · rw [step_race p taken, step_race p' (refusal ▸ taken), holds]
    cases p.holdsRaces with
    | false => exact Or.inl ⟨.unheld, Or.inl rfl, rfl, rfl⟩
    | true => exact Or.inr ⟨rfl, rfl⟩
  · obtain ⟨some, refused⟩ := not_or.mp taken
    obtain ⟨m, rfl⟩ := Nat.exists_eq_succ_of_ne_zero some
    obtain ⟨f, hf⟩ := Option.ne_none_iff_exists'.mp refused
    exact Or.inl ⟨.called (.error f), Or.inr ⟨f, rfl⟩, p.step_race_of_refusal hf m,
      p'.step_race_of_refusal (refusal.trans hf) m⟩

/-- One caller of a race on its connection, and then the others. -/
theorem callers_succ (c : Call) (n : Nat) (used : List Connection) :
    ∃ conn idle rest,
      let q : Portal := { p with tables := (p.attempt conn c).1, connections := idle }
      p.callers c (n + 1) used =
        ((q.callers c n rest).1, p.reply c (p.attempt conn c).2 :: (q.callers c n rest).2) :=
  ⟨_, _, _, rfl⟩

theorem callers_settings (c : Call) (n : Nat) (used : List Connection) :
    (p.callers c n used).1.settings = p.settings := by
  induction n generalizing p used with
  | zero => rfl
  | succ n ih =>
    obtain ⟨conn, idle, rest, heq⟩ := p.callers_succ c n used
    rw [heq, ih]

/-- The callers of a race find the tables as the callers before them left these. -/
theorem callers_course (c : Call) (n : Nat) (used : List Connection) :
    Course p.settings p.tables
      ((p.callers c n used).2.map fun r => ⟨p.clock, .call c r.outcome⟩)
      (p.callers c n used).1.tables := by
  induction n generalizing p used with
  | zero => exact .start
  | succ n ih =>
    obtain ⟨conn, idle, rest, heq⟩ := p.callers_succ c n used
    rw [heq, List.map_cons]
    have others := ih { p with tables := (p.attempt conn c).1, connections := idle } rest
    exact Course.append (Course.single (p.attempt_moves conn c)) others

theorem step_settings (s : Step) : (p.step s).1.settings = p.settings := by
  cases s with
  | race n c =>
    simp only [step]
    split
    · rfl
    · split
      · exact p.callers_settings c _ []
      · rfl
  | _ => rfl

theorem step_course (s : Step) :
    Course p.settings p.tables (p.happenings s) (p.step s).1.tables := by
  cases s with
  | advance ms => exact .start
  | call c => exact Course.single (p.attempt_moves _ c)
  | race n c =>
    unfold happenings
    simp only [step]
    split
    · next f hf =>
      refine Course.single ?_
      have moves := p.attempt_moves [] c
      rw [p.attempt_of_refusal [] hf] at moves
      exact moves
    · split
      · simp only [race, Step.deeds, List.map_map]
        exact p.callers_course c _ []
      · exact .start
  | migrate => exact Course.single rfl
  | dropSchema => exact Course.single rfl
  | state => exact .start

theorem run_settings (steps : List Step) : (p.run steps).1.settings = p.settings := by
  induction steps generalizing p with
  | nil => rfl
  | cons s rest ih => exact (ih (p.step s).1).trans (p.step_settings s)

theorem callers_clock (c : Call) (n : Nat) (used : List Connection) :
    (p.callers c n used).1.clock = p.clock := by
  induction n generalizing p used with
  | zero => rfl
  | succ n ih =>
    obtain ⟨conn, idle, rest, heq⟩ := p.callers_succ c n used
    rw [heq, ih]

theorem step_clock (s : Step) : (p.step s).1.clock = p.clock + s.lapse := by
  cases s with
  | advance ms => rfl
  | race n c =>
    show _ = p.clock + 0
    rw [Int.add_zero]
    simp only [step]
    split
    · rfl
    · split
      · exact p.callers_clock c _ []
      · rfl
  | _ => exact (Int.add_zero p.clock).symm

/-- What new tables have at any time, every event keeps at its time and no lapse of the clock ends,
the tables have after a run, at the time then. -/
theorem run_invariant {P : Int → Tables → Prop} {steps : List Step} (hnew : ∀ now, P now .empty)
    (keep : ∀ (e : Event) (t u : Tables),
      e.Moves p.settings (some t) (some u) → P e.clock t → P e.clock u)
    (later : ∀ s ∈ steps, ∀ now t, P now t → P (now + s.lapse) t)
    (hstart : ∀ t, p.tables = some t → P p.clock t) :
    ∀ t, (p.run steps).1.tables = some t → P (p.run steps).1.clock t := by
  induction steps generalizing p with
  | nil => exact hstart
  | cons s rest ih =>
    have stepped : ∀ t, (p.step s).1.tables = some t → P (p.step s).1.clock t := by
      intro t ht
      rw [p.step_clock s]
      refine later s List.mem_cons_self p.clock t ?_
      refine (p.step_course s).invariant_of_mem (hnew p.clock) hstart ?_ t ht
      intro e he v w moves
      obtain ⟨d, -, rfl⟩ := List.mem_map.mp he
      exact keep _ v w moves
    have settings := p.step_settings s
    exact ih (p.step s).1 (fun e t u moves => keep e t u (settings ▸ moves))
      (fun x hx => later x (List.mem_cons_of_mem s hx)) stepped

/-- Every run is a course of its history. -/
theorem run_course (steps : List Step) :
    Course p.settings p.tables (p.history steps) (p.run steps).1.tables := by
  induction steps generalizing p with
  | nil => exact .start
  | cons s rest ih =>
    show Course p.settings p.tables (p.happenings s ++ (p.step s).1.history rest)
      ((p.step s).1.run rest).1.tables
    refine Course.append (p.step_course s) ?_
    rw [← p.step_settings s]
    exact ih (p.step s).1

/-- A run may be taken in two parts. -/
theorem run_append (steps more : List Step) :
    (p.run (steps ++ more)).1 = ((p.run steps).1.run more).1 := by
  induction steps generalizing p with
  | nil => rfl
  | cons s rest ih => exact ih (p.step s).1

theorem history_append (steps more : List Step) :
    p.history (steps ++ more) = p.history steps ++ (p.run steps).1.history more := by
  induction steps generalizing p with
  | nil => rfl
  | cons s rest ih =>
    show p.happenings s ++ (p.step s).1.history (rest ++ more) =
      p.happenings s ++ (p.step s).1.history rest ++ ((p.step s).1.run rest).1.history more
    rw [ih, List.append_assoc]

/-- A run that never drops the schema has no such event. -/
theorem kept_of_not_mem {steps : List Step} (h : .dropSchema ∉ steps) :
    ∀ e ∈ p.history steps, e.deed ≠ .dropSchema := by
  induction steps generalizing p with
  | nil =>
    intro e he
    cases he
  | cons s rest ih =>
    intro e he
    rcases List.mem_append.mp he with he | he
    · obtain ⟨d, hd, rfl⟩ := List.mem_map.mp he
      rintro rfl
      unfold Step.deeds at hd
      split at hd <;> simp_all
    · exact ih (p.step s).1 (fun hmem => h (List.mem_cons_of_mem s hmem)) e he

end Portal

end AccountPortal

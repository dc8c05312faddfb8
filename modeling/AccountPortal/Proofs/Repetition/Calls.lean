import AccountPortal.Proofs.History
import AccountPortal.Proofs.Repetition.Stores

/-!
# Steps that are made again

A step that is made many times at one time of the clock leaves the tables that making it once
leaves, and from the second time on it comes out as it did. There is one exception. Without tables
a call that binds an integer out of range fails in one of two ways, and in which of them depends on
what its connection has prepared: so the outcomes may differ where idle connections do.

    (p.run (replicate (n + 1) s)).1.tables = (p.step s).1.tables          (tables_of_replicate)
    p.Steady s → ∃ o, every outcome but the first is o                  (outcomes_of_replicate)
-/

namespace AccountPortal

/-! ## A call that is made -/

namespace Call

variable {ctx : Context} {c : Call} {t : Tables}

/-- The tables after a call and its outcome; a call that fails changes none. -/
def make (ctx : Context) (c : Call) (t : Tables) : Tables × Except Fault Answer :=
  match c.effect ctx t with
  | .ok (u, a) => (u, .ok a)
  | .error f => (t, .error f)

variable {u : Tables} {a : Answer} {f : Fault}

theorem make_of_ok (h : c.effect ctx t = .ok (u, a)) : c.make ctx t = (u, .ok a) := by
  unfold make
  rw [h]

theorem make_of_error (h : c.effect ctx t = .error f) : c.make ctx t = (t, .error f) := by
  unfold make
  rw [h]

/-- A call that is made again changes no table. -/
theorem make_make (ctx : Context) (c : Call) (t : Tables) :
    (c.make ctx (c.make ctx t).1).1 = (c.make ctx t).1 := by
  cases first : c.effect ctx t with
  | error f => rw [make_of_error first, make_of_error first]
  | ok r =>
    obtain ⟨u, a⟩ := r
    rw [make_of_ok first]
    cases second : c.effect ctx u with
    | error f => rw [make_of_error second]
    | ok r' =>
      obtain ⟨v, b⟩ := r'
      rw [make_of_ok second]
      exact c.settles ctx t u a v b first second

/-- The integers that a call binds. -/
def integers (ctx : Context) (c : Call) : List Int :=
  match c.plan ctx with
  | .ok (.transaction integers _) => integers
  | _ => []

end Call

namespace Portal

variable {p q : Portal} {c : Call} {t : Tables}

theorem attempt_some (h : p.tables = some t) (conn : Connection) (c : Call) :
    p.attempt conn c = (some (c.make p.context t).1, (c.make p.context t).2) := by
  unfold Call.make
  cases he : c.effect p.context t with
  | error f => exact attempt_eq_of_effect_error h conn he
  | ok r => exact attempt_eq_of_effect_ok h conn he

/-- All that a call learns from its connection is whether its first statement is prepared. -/
theorem attempt_congr {conn conn' : Connection} (h : conn.knows c = conn'.knows c) :
    p.attempt conn c = p.attempt conn' c := by
  unfold attempt perform
  rw [h]

/-- Without tables a call whose integers fit comes out the same on every connection. -/
theorem attempt_none_of_fits (h : p.tables = none) (conn conn' : Connection)
    (fits : (c.integers p.context).all fitsWord = true) :
    p.attempt conn c = p.attempt conn' c := by
  unfold Call.integers at fits
  unfold attempt perform
  rw [h]
  cases hp : c.plan p.context with
  | error f => rfl
  | ok plan =>
    cases plan with
    | answered a => rfl
    | transaction integers body =>
      rw [hp] at fits
      simp only [Plan.execute_transaction_none, show integers.all fitsWord = true from fits,
        Bool.not_true, Bool.and_false]

/-- An integer out of range is met first where the statement is prepared. -/
theorem attempt_none_of_unfit (h : p.tables = none) (conn : Connection)
    (unfit : (c.integers p.context).all fitsWord = false) :
    (p.attempt conn c).2 =
      .error (if conn.knows c then .integerOutOfRange else .schemaMissing) := by
  unfold Call.integers at unfit
  unfold attempt perform
  rw [h]
  cases hp : c.plan p.context with
  | error f =>
    rw [hp] at unfit
    cases unfit
  | ok plan =>
    rw [hp] at unfit
    cases plan with
    | answered a => cases unfit
    | transaction integers body =>
      simp only [Plan.execute_transaction_none, show integers.all fitsWord = false from unfit,
        Bool.not_false, Bool.and_true]

/-! ## Portals that differ in their connections -/

/-- The same settings, the same time and the same tables. -/
structure Like (p q : Portal) : Prop where
  settings : q.settings = p.settings
  clock : q.clock = p.clock
  tables : q.tables = p.tables

theorem Like.refl (p : Portal) : p.Like p := ⟨rfl, rfl, rfl⟩

theorem Like.context (h : p.Like q) : q.context = p.context := by
  unfold Portal.context
  rw [h.settings, h.clock]

theorem Like.trans {r : Portal} (h : p.Like q) (h' : q.Like r) : p.Like r :=
  ⟨h'.settings.trans h.settings, h'.clock.trans h.clock, h'.tables.trans h.tables⟩

/-- On the same connection a call does the same. -/
theorem Like.attempt (h : p.Like q) (conn : Connection) (c : Call) :
    q.attempt conn c = p.attempt conn c := by
  unfold Portal.attempt perform
  rw [h.context, h.tables]

/-- What each repetition keeps of the connections, and has for an outcome, all repetitions do. -/
theorem run_replicate {s : Step} {K : List Connection → Prop} {O : Outcome → Prop}
    (steady : ∀ q, p.Like q → K q.connections →
      p.Like (q.step s).1 ∧ K (q.step s).1.connections ∧ O (q.step s).2.outcome)
    (n : Nat) (like : p.Like q) (hk : K q.connections) :
    p.Like (q.run (List.replicate n s)).1 ∧
      ∀ e ∈ (q.run (List.replicate n s)).2, O e.outcome := by
  induction n generalizing q with
  | zero =>
    refine ⟨like, ?_⟩
    intro e he
    cases he
  | succ n ih =>
    obtain ⟨hlike, hk', hout⟩ := steady q like hk
    obtain ⟨hlast, houts⟩ := ih hlike hk'
    refine ⟨hlast, ?_⟩
    intro e he
    rcases List.mem_cons.mp he with rfl | he
    · exact hout
    · exact houts e he

theorem outcomes_eq {s : Step} {K : List Connection → Prop} {o : Outcome}
    (steady : ∀ q, p.Like q → K q.connections →
      p.Like (q.step s).1 ∧ K (q.step s).1.connections ∧ (q.step s).2.outcome = o)
    (n : Nat) (hk : K p.connections) :
    ∀ e ∈ (p.run (List.replicate n s)).2, e.outcome = o :=
  (run_replicate (O := (· = o)) steady n (Like.refl p) hk).2

/-! ## Calls and changes of the schema -/

/-- What a caller may make again: a call or a change of the schema. -/
inductive Step.Repeats : Step → Prop where
  | call (c : Call) : Step.Repeats (.call c)
  | migrate : Step.Repeats .migrate
  | dropSchema : Step.Repeats .dropSchema

theorem call_like (h : (p.attempt (.next p.connections) c).1 = p.tables) : p.Like (p.call c).1 :=
  ⟨rfl, rfl, h⟩

/-- A step that is made again leaves the portal as it was, but for its connections. -/
theorem like_of_again {s : Step} (hs : s.Repeats) (like : (p.step s).1.Like q) :
    q.Like (q.step s).1 := by
  cases hs with
  | call c =>
    apply call_like
    cases ht : p.tables with
    | none =>
      have gone : q.tables = none := by
        rw [like.tables]
        exact (attempt_none ht (.next p.connections) c).1
      rw [gone]
      exact (attempt_none gone (.next q.connections) c).1
    | some t =>
      have there : q.tables = some (c.make p.context t).1 := by
        rw [like.tables]
        exact congrArg Prod.fst (attempt_some ht (.next p.connections) c)
      rw [attempt_some there, there, like.context]
      exact congrArg some (c.make_make p.context t)
  | migrate =>
    refine ⟨rfl, rfl, ?_⟩
    have there : q.tables = some (p.tables.getD .empty) := like.tables
    show some (q.tables.getD .empty) = q.tables
    rw [there]
    rfl
  | dropSchema =>
    refine ⟨rfl, rfl, ?_⟩
    have gone : q.tables = none := like.tables
    rw [gone]
    rfl

theorem tables_of_replicate {s : Step} (hs : s.Repeats) (p : Portal) (n : Nat) :
    (p.run (List.replicate (n + 1) s)).1.tables = (p.step s).1.tables := by
  have again := run_replicate (p := (p.step s).1) (s := s) (K := fun _ => True)
    (O := fun _ => True)
    (fun q like _ => ⟨like.trans (like_of_again hs like), trivial, trivial⟩) n (Like.refl _) trivial
  exact again.1.tables

/-! ## Outcomes -/

/-- All idle connections, and the next one where there are none, are alike to the call. -/
def AllKnow (c : Call) (b : Bool) (idle : List Connection) : Prop :=
  ∀ conn ∈ Connection.next idle :: idle, conn.knows c = b

/-- What a connection has prepared it keeps. -/
theorem knows_prepare {conn : Connection} (h : conn.knows c = true) (forms : List StatementForm) :
    (conn.prepare forms).knows c = true := by
  induction forms generalizing conn with
  | nil => exact h
  | cons form rest ih =>
    apply ih
    unfold Connection.knows at h ⊢
    cases hf : c.forms.head? with
    | none =>
      rw [hf] at h
      cases h
    | some first =>
      rw [hf] at h
      simp only [Option.any_some, List.contains_iff_mem] at h ⊢
      exact List.mem_insert_of_mem h

theorem allKnow_turn {b : Bool} {idle : List Connection} {forms : List StatementForm}
    (h : AllKnow c b idle) (hforms : ((Connection.next idle).prepare forms).knows c = b) :
    AllKnow c b (Connection.turn idle forms) := by
  have hall : ∀ conn ∈ Connection.turn idle forms, conn.knows c = b := by
    intro conn hconn
    rcases List.mem_append.mp hconn with hconn | hconn
    · exact h conn (List.mem_cons_of_mem _ (List.mem_of_mem_drop hconn))
    · rw [List.mem_singleton.mp hconn]
      exact hforms
  intro conn hconn
  rcases List.mem_cons.mp hconn with rfl | hconn
  · apply hall
    unfold Connection.turn
    cases idle.drop 1 <;> simp [Connection.next]
  · exact hall conn hconn

/-- Without tables no connection prepares anything that it does not know. -/
theorem allKnow_call {b : Bool} (h : q.tables = none) (hall : AllKnow c b q.connections) :
    AllKnow c b (q.call c).1.connections := by
  have hnext := hall _ List.mem_cons_self
  show AllKnow c b ((c.transactions q.context (q.attempt (.next q.connections) c).2).foldl
    Connection.turn q.connections)
  unfold Call.transactions attempt perform
  rw [h]
  cases hp : c.plan q.context with
  | error f => exact hall
  | ok plan =>
    cases plan with
    | answered a => exact hall
    | transaction integers body =>
      simp only [Plan.execute_transaction_none]
      cases hb : (Connection.next q.connections).knows c && !integers.all fitsWord with
      | false => exact allKnow_turn hall hnext
      | true =>
        have known := (Bool.and_eq_true_iff.mp hb).1
        exact allKnow_turn hall (by rw [knows_prepare known, ← hnext, known])

/-- What the outcome of a step that is made again takes: tables, or integers in range, or idle
connections that have all prepared the call or all not. -/
def Steady (p : Portal) : Step → Prop
  | .call c =>
    p.tables ≠ none ∨ (c.integers p.context).all fitsWord = true ∨
      ∀ conn ∈ p.connections, conn.knows c = (Connection.next p.connections).knows c
  | _ => True

theorem outcomes_of_calls (steady : p.Steady (.call c)) (n : Nat) :
    ∃ o, ∀ e ∈ ((p.call c).1.run (List.replicate n (.call c))).2, e.outcome = o := by
  have again : ∀ q, (p.call c).1.Like q → (p.call c).1.Like (q.step (.call c)).1 :=
    fun q like => like.trans (like_of_again (.call c) like)
  cases ht : p.tables with
  | some t =>
    -- every repetition finds the tables that the first call left
    have there : (p.call c).1.tables = some (c.make p.context t).1 :=
      congrArg Prod.fst (attempt_some ht (.next p.connections) c)
    refine ⟨.called (c.make p.context (c.make p.context t).1).2, ?_⟩
    refine outcomes_eq (K := fun _ => True) ?_ n trivial
    intro q like _
    refine ⟨again q like, trivial, ?_⟩
    show Outcome.called (q.attempt (.next q.connections) c).2 = _
    rw [attempt_some (like.tables.trans there), like.context]
    rfl
  | none =>
    have gone : (p.call c).1.tables = none := (attempt_none ht (.next p.connections) c).1
    have hp : p.Like (p.call c).1 := ⟨rfl, rfl, gone.trans ht.symm⟩
    refine ⟨.called (p.attempt (.next p.connections) c).2, ?_⟩
    rcases steady with present | fits | alike
    · exact absurd ht present
    · refine outcomes_eq (K := fun _ => True) ?_ n trivial
      intro q like _
      refine ⟨again q like, trivial, ?_⟩
      show Outcome.called (q.attempt (.next q.connections) c).2 = _
      rw [(hp.trans like).attempt, attempt_none_of_fits ht _ (.next p.connections) fits]
    · -- connections that are alike stay so
      have hall : AllKnow c ((Connection.next p.connections).knows c) p.connections := by
        intro conn hconn
        rcases List.mem_cons.mp hconn with rfl | hconn
        · rfl
        · exact alike conn hconn
      refine outcomes_eq (K := AllKnow c _) ?_ n (allKnow_call ht hall)
      intro q like hk
      refine ⟨again q like, allKnow_call (like.tables.trans gone) hk, ?_⟩
      show Outcome.called (q.attempt (.next q.connections) c).2 = _
      rw [(hp.trans like).attempt, attempt_congr (hk _ List.mem_cons_self)]

theorem outcomes_of_replicate {s : Step} (hs : s.Repeats) (steady : p.Steady s) (n : Nat) :
    ∃ o, ∀ e ∈ ((p.run (List.replicate (n + 1) s)).2.drop 1), e.outcome = o := by
  show ∃ o, ∀ e ∈ ((p.step s).1.run (List.replicate n s)).2, e.outcome = o
  cases hs with
  | call c => exact outcomes_of_calls steady n
  | migrate =>
    refine ⟨.done, outcomes_eq (K := fun _ => True) ?_ n trivial⟩
    exact fun q like _ => ⟨like.trans (like_of_again .migrate like), trivial, rfl⟩
  | dropSchema =>
    refine ⟨.done, outcomes_eq (K := fun _ => True) ?_ n trivial⟩
    exact fun q like _ => ⟨like.trans (like_of_again .dropSchema like), trivial, rfl⟩

/-- Without tables a call that binds an integer out of range fails whenever it is made. -/
theorem faults_without_tables (h : p.tables = none)
    (unfit : (c.integers p.context).all fitsWord = false) (n : Nat) :
    ∀ e ∈ (p.run (List.replicate n (.call c))).2,
      e.outcome = .called (.error .integerOutOfRange) ∨
        e.outcome = .called (.error .schemaMissing) := by
  refine (run_replicate (K := fun _ => True)
    (O := fun o => o = .called (.error .integerOutOfRange) ∨ o = .called (.error .schemaMissing))
    ?_ n (Like.refl p) trivial).2
  intro q like _
  have gone : q.tables = none := like.tables.trans h
  refine ⟨⟨like.settings, like.clock, ?_⟩, trivial, ?_⟩
  · exact (attempt_none gone (.next q.connections) c).1.trans h.symm
  · have out := attempt_none_of_unfit gone (.next q.connections)
      (show (c.integers q.context).all fitsWord = false by rw [like.context]; exact unfit)
    show Outcome.called (q.attempt (.next q.connections) c).2 = _ ∨
      Outcome.called (q.attempt (.next q.connections) c).2 = _
    rw [out]
    cases (Connection.next q.connections).knows c
    · exact Or.inr rfl
    · exact Or.inl rfl

end Portal

end AccountPortal

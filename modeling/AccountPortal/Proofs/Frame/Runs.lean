import AccountPortal.Proofs.Frame.Calls

/-!
# Stores do not interfere

A run, and the same run without the calls that do not reach into a group of tables: after each step
that is left the tables of the group are the same, and every call that is made on the group comes
out the same (`stores_do_not_interfere`). The two runs are followed side by side: a call that is
left is made on both, and one that is left out on the first alone.

There is one exception. Without tables a call that binds an integer out of range fails on both, but
in which of two ways depends on what its connection has prepared. While no race was run there is one
connection on each side, which has prepared the same statements on the group (`Paired`), so then the
call fails in the same way too.
-/

namespace AccountPortal

/-! ## Statements -/

/-- The table that a statement is about. -/
def StatementForm.table : StatementForm → TableName
  | .createUser | .verifyUser => .users
  | .createSession | .findSession | .purgeSessions => .sessions
  | .createEmailToken | .consumeEmailToken | .purgeEmailTokens => .emailVerifications
  | .linkIdentity => .oauthLinks
  | .createOAuthState | .consumeOAuthState | .purgeOAuthStates => .oauthStates
  | .enroll | .approve _ | .verifyOwner | .touch _ => .enrollments
  | .createWallet | .acknowledgeWallet => .wallets
  | .createChallenge | .consumeChallenge | .purgeChallenges => .passkeyChallenges
  | .registerCredential | .setCounter => .passkeyCredentials

namespace Call

variable {G : List TableName} {c : Call}

/-- A call looks at no tables but those that it has a say in. -/
theorem table_mem_reach (c : Call) : ∀ form ∈ c.forms, form.table ∈ c.reach := by
  fun_cases forms c <;>
    simp_all [StatementForm.table, reach, table?, Accounts.Request.reachesNodes]

theorem table_of_head? (hc : c.isOn G = true) :
    ∀ form, c.forms.head? = some form → form.table ∈ G := by
  fun_cases forms c <;> simp_all [StatementForm.table, isOn, table?]

theorem concerns_of_isOn (hc : c.isOn G = true) : c.concerns G = true := by
  cases c with
  | accounts r =>
    have hG : .users ∈ G := by simpa [isOn, table?] using hc
    cases r <;> simp [concerns, reach, Accounts.Request.reachesNodes, hG]
  | purgeExpired => cases hc
  | _ => simpa [isOn, concerns, table?, reach] using hc

theorem table_not_mem (hc : c.concerns G = false) : ∀ form ∈ c.forms, form.table ∉ G := by
  intro form hform taken
  have reached : c.reach.any G.contains = true :=
    List.any_eq_true.mpr ⟨_, table_mem_reach c form hform, List.contains_iff_mem.mpr taken⟩
  rw [show c.reach.any G.contains = false from hc] at reached
  cases reached

/-- A call that reaches into a group does the same on tables that are the same there. -/
theorem twins_of_concerns (ctx : Context) (hc : c.concerns G = true) :
    c.Twins ctx (Tables.SameOn G) (c.AlikeOn G) c :=
  ⟨rfl, rfl, fun _ _ same => agrees_of_concerns hc same, .refl⟩

end Call

namespace Portal

open Connection (Agree)
open Tables (SameOn)

/-! ## Calls that are left out -/

section without

variable {G : List TableName} {p p' : Portal} {c : Call} (h : Twin (SameOn G) p p')
  (hc : c.concerns G = false)
include h hc

theorem Twin.without_attempt (conn : Connection) (idle : List Connection) :
    Twin (SameOn G) { p with tables := (p.attempt conn c).1, connections := idle } p' := by
  refine ⟨h.settings, h.clock, ?_⟩
  rcases h.cases with ⟨gone, gone'⟩ | ⟨t, t', there, there', same⟩
  · show Option.Rel (SameOn G) (p.attempt conn c).1 p'.tables
    rw [(attempt_none gone conn c).1, gone']
    exact .none
  · show Option.Rel (SameOn G) (p.attempt conn c).1 p'.tables
    rw [there']
    cases he : c.effect p.context t with
    | error f =>
      rw [attempt_eq_of_effect_error there conn he]
      exact .some same
    | ok r =>
      rw [attempt_eq_of_effect_ok there conn he]
      exact .some (Call.sameOn_of_effect hc he same)

theorem Twin.without_callers (n : Nat) (used : List Connection) :
    Twin (SameOn G) (p.callers c n used).1 p' := by
  induction n generalizing p used with
  | zero => exact ⟨h.settings, h.clock, h.tables⟩
  | succ n ih =>
    obtain ⟨conn, idle, rest, heq⟩ := p.callers_succ c n used
    rw [heq]
    exact ih (h.without_attempt hc conn idle) rest

end without

/-! ## One connection on each side -/

theorem turns_single (conn : Connection) (ts : List (List StatementForm)) :
    ts.foldl Connection.turn [conn] = [conn.prepare ts.flatten] := by
  induction ts generalizing conn with
  | nil => rfl
  | cons forms rest ih =>
    have both : (conn.prepare forms).prepare rest.flatten =
        conn.prepare (forms :: rest).flatten := by
      simp only [Connection.prepare, List.flatten_cons, List.foldl_append]
    rw [List.foldl_cons, ← both]
    exact ih (conn.prepare forms)

theorem connections_of_call {p : Portal} {conn : Connection} (h : p.connections = [conn])
    (c : Call) :
    (p.call c).1.connections =
      [conn.prepare (c.transactions p.context (p.attempt conn c).2).flatten] := by
  show (c.transactions p.context (p.attempt (.next p.connections) c).2).foldl Connection.turn
    p.connections = _
  rw [h, turns_single]
  rfl

/-- One connection on each side, and these agree. -/
def Paired (S : StatementForm → Prop) (p p' : Portal) : Prop :=
  ∃ conn conn', p.connections = [conn] ∧ p'.connections = [conn'] ∧ Agree S conn conn'

section paired

variable {S : StatementForm → Prop} {p p' : Portal} {c : Call} (h : Paired S p p')
include h

theorem Paired.agree : List.Forall₂ (Agree S) p.connections p'.connections := by
  obtain ⟨conn, conn', hp, hp', agree⟩ := h
  rw [hp, hp']
  exact .cons agree .nil

theorem Paired.symm : Paired S p' p := by
  obtain ⟨conn, conn', hp, hp', agree⟩ := h
  exact ⟨conn', conn, hp', hp, fun form hform => (agree form hform).symm⟩

/-- A call on one side that prepares nothing that matters and was not known. -/
theorem Paired.call_left
    (unseen : ∀ conn, ∀ forms ∈ c.transactions p.context (p.attempt conn c).2, ∀ form ∈ forms,
      S form → form ∈ conn) : Paired S (p.call c).1 p' := by
  obtain ⟨conn, conn', hp, hp', agree⟩ := h
  refine ⟨_, conn', connections_of_call hp c, hp', ?_⟩
  intro form hform
  rw [Connection.mem_prepare, agree form hform]
  constructor
  · exact Or.inl
  · rintro (known | prepared)
    · exact known
    · obtain ⟨forms, hforms, hmem⟩ := List.mem_flatten.mp prepared
      exact unseen conn forms hforms form hmem hform

/-- A call on both sides that does the same on both. -/
theorem Paired.call {R : Tables → Tables → Prop} {A : Answer → Answer → Prop}
    (twin : Twin R p p') (hc : c.Twins p.context R A c)
    (stage : ∀ a a', A a a' → a'.stage = a.stage) : Paired S (p.call c).1 (p'.call c).1 := by
  rcases twin.cases with ⟨gone, gone'⟩ | ⟨t, -, there, -⟩
  · -- without tables neither side prepares what it did not know
    have left : Paired S (p.call c).1 p' :=
      h.call_left fun conn _ hforms form hform _ => known_of_none gone conn hforms form hform
    exact (left.symm.call_left fun conn _ hforms form hform _ =>
      known_of_none gone' conn hforms form hform).symm
  · obtain ⟨conn, conn', hp, hp', agree⟩ := h
    have ends : SameEnd A (p.attempt conn c).2 (p'.attempt conn' c).2 :=
      sameEnd_of_definite (Or.inl (there ▸ Option.some_ne_none t)) (twin.attempt hc conn conn').2.1
    refine ⟨_, _, connections_of_call hp c, connections_of_call hp' c, ?_⟩
    rw [twin.transactions hc stage ends]
    exact agree.prepare _

end paired

/-! ## Steps -/

def Step.concerns (G : List TableName) (s : Step) : Bool :=
  s.call?.all (·.concerns G)

/-- What the callers of a step are handed. -/
def Outcome.values (o : Outcome) : List (Except Fault Answer) := o.each.map (·.map Answer.value)

/-- How many rows of a table each caller of a step is told that the purge removed from it. -/
def Outcome.removed (o : Outcome) (n : TableName) : List (Option Nat) :=
  o.each.map fun out => out.toOption.map (·.removed n)

variable {G : List TableName} {p p' : Portal} {s : Step} {c : Call}

theorem Twin.step_without (h : Twin (SameOn G) p p') (hs : s.concerns G = false) :
    Twin (SameOn G) (p.step s).1 p' := by
  cases s with
  | call c => exact h.without_attempt (by simpa [Step.concerns, Step.call?] using hs) _ _
  | race n c =>
    have hc : c.concerns G = false := by simpa [Step.concerns, Step.call?] using hs
    rcases race_alike (p := p) (c := c) rfl rfl n with ⟨o, -, hp, -⟩ | ⟨hp, -⟩
    · rw [hp]
      exact h
    · rw [hp]
      exact h.without_callers hc n []
  | _ => cases hs

/-- The callers of a step that is left come out alike on both sides. -/
theorem Twin.step (h : Twin (SameOn G) p p') (hs : s.concerns G = true) :
    Twin (SameOn G) (p.step s).1 (p'.step s).1 ∧
      ∀ c, s.call? = some c →
        List.Forall₂ (p.Ends c (c.AlikeOn G)) (p.step s).2.outcome.each
          (p'.step s).2.outcome.each := by
  cases s with
  | call c =>
    have hc : c.concerns G = true := by simpa [Step.concerns, Step.call?] using hs
    have twins := Call.twins_of_concerns p.context hc
    refine ⟨h.after twins _ _ _ _, ?_⟩
    rintro c' hc'
    cases hc'
    exact .cons (h.attempt twins _ _).2.1 .nil
  | race n c =>
    have hc : c.concerns G = true := by simpa [Step.concerns, Step.call?] using hs
    rcases race_alike (c := c) h.holdsRaces rfl n with ⟨o, unchanged, hp, hp'⟩ | ⟨hp, hp'⟩
    · rw [hp, hp']
      refine ⟨h, ?_⟩
      rintro c' -
      rcases unchanged with rfl | ⟨f, rfl⟩
      · exact .nil
      · exact .cons (Or.inl (.error f)) .nil
    · rw [hp, hp']
      obtain ⟨last, outs⟩ := h.callers (Call.twins_of_concerns p.context hc) n [] []
      refine ⟨last, ?_⟩
      rintro c' hc'
      cases hc'
      exact outs
  | _ => exact ⟨(h.step_of_quiet (.refl _) rfl).1, fun c hc => by cases hc⟩

/-- Where one connection on each side has prepared the same, the callers come out alike in any
case. -/
theorem Twin.ends_of_paired (h : Twin (SameOn G) p p') (paired : Paired (·.table ∈ G) p p')
    (hs : s.call? = some c) (hc : c.isOn G = true) :
    List.Forall₂ (SameEnd (c.AlikeOn G)) (p.step s).2.outcome.each (p'.step s).2.outcome.each := by
  have twins := Call.twins_of_concerns p.context (Call.concerns_of_isOn hc)
  have first := Call.table_of_head? hc
  cases s with
  | call c' =>
    cases hs
    exact .cons (h.call_of_agree twins (fun _ _ same => same.stage) first paired.agree).2 .nil
  | race n c' =>
    cases hs
    rcases race_alike (c := c) h.holdsRaces rfl n with ⟨o, unchanged, hp, hp'⟩ | ⟨hp, hp'⟩
    · rw [hp, hp']
      rcases unchanged with rfl | ⟨f, rfl⟩
      · exact .nil
      · exact .cons (.error f) .nil
    · rw [hp, hp']
      exact (h.callers_of_agree twins (fun _ _ same => same.stage) first paired.agree n .nil).2
  | _ => cases hs

theorem Paired.step (paired : Paired (·.table ∈ G) p p') (h : Twin (SameOn G) p p')
    (hs : s.concerns G = true) (single : ∀ n c, s ≠ .race n c) :
    Paired (·.table ∈ G) (p.step s).1 (p'.step s).1 := by
  cases s with
  | advance ms => exact paired
  | call c =>
    have hc : c.concerns G = true := by simpa [Step.concerns, Step.call?] using hs
    exact paired.call h (Call.twins_of_concerns p.context hc) fun _ _ same => same.stage
  | race n c => exact absurd rfl (single n c)
  | _ =>
    obtain ⟨conn, conn', hp, hp', agree⟩ := paired
    refine ⟨conn, conn', ?_, ?_, agree⟩
    · show Connection.turn p.connections [] = [conn]
      rw [hp]
      rfl
    · show Connection.turn p'.connections [] = [conn']
      rw [hp']
      rfl

theorem Paired.step_without (paired : Paired (·.table ∈ G) p p') (hs : s.concerns G = false)
    (single : ∀ n c, s ≠ .race n c) : Paired (·.table ∈ G) (p.step s).1 p' := by
  cases s with
  | call c =>
    have hc : c.concerns G = false := by simpa [Step.concerns, Step.call?] using hs
    refine paired.call_left ?_
    intro conn forms hforms form hform taken
    exact absurd taken (Call.table_not_mem hc form (Call.mem_forms_of_transactions hforms hform))
  | race n c => exact absurd rfl (single n c)
  | _ => cases hs

/-! ## What is handed out -/

theorem removed_eq_of_ends {os os' : List (Except Fault Answer)}
    (h : List.Forall₂ (p.Ends c (c.AlikeOn G)) os os') {n : TableName} (hn : n ∈ G) :
    os'.map (fun out => out.toOption.map (·.removed n)) =
      os.map fun out => out.toOption.map (·.removed n) := by
  have none_of_fails {o : Except Fault Answer} (ho : Fails o) : o.toOption = none := by
    rcases ho with rfl | rfl <;> rfl
  induction h with
  | nil => rfl
  | cons first _ ih =>
    rw [List.map_cons, List.map_cons, ih]
    rcases first with ends | ⟨-, fails, fails'⟩
    · cases ends with
      | error f => rfl
      | ok alike => simp only [Except.toOption, Option.map_some, alike.removed n hn]
    · rw [none_of_fails fails, none_of_fails fails']

theorem values_eq_of_ends {os os' : List (Except Fault Answer)} (hc : c.isOn G = true)
    (h : List.Forall₂ (SameEnd (c.AlikeOn G)) os os') :
    os'.map (·.map Answer.value) = os.map (·.map Answer.value) := by
  induction h with
  | nil => rfl
  | cons first _ ih =>
    rw [List.map_cons, List.map_cons, ih]
    cases first with
    | error f => rfl
    | ok alike => simp only [Except.map, alike.value hc]

/-! ## Runs -/

theorem Twin.run_filter (h : Twin (SameOn G) p p') (steps : List Step) :
    Twin (SameOn G) (p.run steps).1 (p'.run (steps.filter (·.concerns G))).1 := by
  induction steps generalizing p p' with
  | nil => exact h
  | cons s rest ih =>
    cases hs : s.concerns G with
    | true =>
      rw [List.filter_cons_of_pos hs]
      exact ih (h.step hs).1
    | false =>
      rw [List.filter_cons_of_neg (by simp [hs])]
      exact ih (h.step_without hs)

theorem Paired.run_filter (paired : Paired (·.table ∈ G) p p') (h : Twin (SameOn G) p p')
    {steps : List Step} (single : ∀ n c, .race n c ∉ steps) :
    Paired (·.table ∈ G) (p.run steps).1 (p'.run (steps.filter (·.concerns G))).1 := by
  induction steps generalizing p p' with
  | nil => exact paired
  | cons s rest ih =>
    have first : ∀ n c, s ≠ .race n c := by
      rintro n c rfl
      exact single n c List.mem_cons_self
    have others : ∀ n c, .race n c ∉ rest := fun n c hmem =>
      single n c (List.mem_cons_of_mem s hmem)
    cases hs : s.concerns G with
    | true =>
      rw [List.filter_cons_of_pos hs]
      exact ih (paired.step h hs first) (h.step hs).1 others
    | false =>
      rw [List.filter_cons_of_neg (by simp [hs])]
      exact ih (paired.step_without hs first) (h.step_without hs) others

/-- New portals are alike in every way. -/
theorem twin_fresh (settings : Settings) (clock : Int) :
    Twin (SameOn G) (fresh settings clock) (fresh settings clock) :=
  ⟨rfl, rfl, .some (.refl _)⟩

theorem paired_fresh (settings : Settings) (clock : Int) :
    Paired (·.table ∈ G) (fresh settings clock) (fresh settings clock) :=
  ⟨.fresh, .fresh, rfl, rfl, .refl _⟩

end Portal

open Portal

/-- Stores do not interfere. In a run of a new portal the calls are left out that do not reach into
a group of tables. After each step that is left the tables of the group are the same as in the whole
run, and the purge of the ledgers removed as much from them. What the callers of a call on the group
are handed is the same too, unless the schema is dropped, the call binds an integer out of range
and a race was run before: each caller fails then in both runs, with one of two faults. -/
theorem stores_do_not_interfere (settings : Settings) (clock : Int) (G : List TableName)
    (steps : List Step) :
    let p := Portal.fresh settings clock
    let left (steps : List Step) := steps.filter (·.concerns G)
    ∀ passed s later, steps = passed ++ s :: later → s.concerns G = true →
      let q := (p.run passed).1
      let q' := (p.run (left passed)).1
      ∃ e e', (p.run steps).2[passed.length]? = some e ∧
        (p.run (left steps)).2[(left passed).length]? = some e' ∧
        (∀ n ∈ G, (q'.step s).1.tables.map (·.contents n) =
          (q.step s).1.tables.map (·.contents n)) ∧
        (∀ n ∈ G, e'.outcome.removed n = e.outcome.removed n) ∧
        (∀ c, s.call? = some c → c.isOn G = true →
          q.Definite c ∨ (∀ n c, .race n c ∉ passed) → e'.outcome.values = e.outcome.values) ∧
        ∀ c, s.call? = some c → ¬ q.Definite c →
          ∀ o ∈ e.outcome.each ++ e'.outcome.each, Fails o := by
  rintro p left passed s later rfl hs q q'
  have split : left (passed ++ s :: later) = left passed ++ s :: left later := by
    simp only [left, List.filter_append, List.filter_cons_of_pos hs]
  have twin : Twin (Tables.SameOn G) q q' := (twin_fresh settings clock).run_filter passed
  obtain ⟨next, ends⟩ := twin.step hs
  refine ⟨(q.step s).2, (q'.step s).2, p.run_entry passed s later, ?_, ?_, ?_, ?_,
    fun c hc => twin.fails hc⟩
  · rw [split]
    exact p.run_entry (left passed) s (left later)
  · intro n hn
    rcases next.cases with ⟨gone, gone'⟩ | ⟨t, t', there, there', same⟩
    · rw [gone, gone']
    · rw [there, there', Option.map_some, Option.map_some, same.contents hn]
  · intro n hn
    cases hc : s.call? with
    | none => cases s <;> first | rfl | cases hc
    | some c => exact removed_eq_of_ends (ends c hc) hn
  · intro c hc onGroup settled
    refine values_eq_of_ends onGroup ?_
    rcases settled with definite | single
    · exact (ends c hc).imp fun _ _ => sameEnd_of_definite definite
    · exact twin.ends_of_paired
        ((paired_fresh settings clock).run_filter (twin_fresh settings clock) single) hc onGroup

/-- A session that is found beside calls on other stores, and in the same run without them. -/
theorem session_found_beside_others :
    let G : List TableName := [.sessions]
    let passed : List Step :=
      [.call (.accounts (.create "u" "u@x" none none false)),
        .call (.sessions (.create "s" "u" "h" none)), .race 2 (.accounts (.verifyEmail "u")),
        .advance 5]
    let s : Step := .call (.sessions (.find "h"))
    let p := Portal.fresh .standard 0
    let left := (passed ++ [s]).filter (·.concerns G)
    left.length = 3 ∧ s.concerns G = true ∧
      ∃ e e', (p.run (passed ++ [s])).2[4]? = some e ∧ (p.run left).2[2]? = some e' ∧
        e.outcome.values = [.ok (.record (some (.session "s" "u" 604800000)))] ∧
        e'.outcome.values = e.outcome.values := by
  intro G passed s p left
  obtain ⟨e, e', he, he', -, -, same, -⟩ :=
    stores_do_not_interfere .standard 0 G (passed ++ [s]) passed s [] rfl rfl
  refine ⟨rfl, rfl, e, e', he, he', ?_, ?_⟩
  · have found : (p.run (passed ++ [s])).2[4]? = some e := he
    simp only [p, passed, s] at found
    cases found
    rfl
  · refine same _ rfl rfl (Or.inl (Or.inr ?_))
    rfl

/-- A race on the sessions leaves a second connection behind, on which a call on the nodes finds its
statement not prepared once the schema is dropped and the clock is out of range. -/
theorem outcomes_differ_without_race :
    let verify : Step := .call (.enrollments (.verifyOwner "u"))
    let p := Portal.fresh .standard 1700000000000
    let others : List Step := [verify, .dropSchema, .advance 9223372036854775807, verify, verify]
    let steps : List Step := .race 2 (.sessions (.find "h")) :: others
    steps.filter (·.concerns [.users, .enrollments]) = others ∧
      ∃ e e', (p.run steps).2[5]? = some e ∧ (p.run others).2[4]? = some e' ∧
        e'.outcome.values ≠ e.outcome.values := by
  intro verify p others steps
  have raced : (p.run steps).2[5]? = some ⟨.called (.error .schemaMissing), []⟩ := by
    simp only [steps, others, verify, p]
    rfl
  have unraced : (p.run others).2[4]? = some ⟨.called (.error .integerOutOfRange), []⟩ := by
    simp only [others, verify, p]
    rfl
  refine ⟨rfl, _, _, raced, unraced, ?_⟩
  intro same
  cases same

end AccountPortal

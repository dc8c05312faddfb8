import AccountPortal.Proofs.Enrollment.Change

/-!
# Activation

A node is active when it is approved and its owner's email is verified, and at no other time:

    every enrollment after a run, and every enrollment a call on the enrollments hands back, is
    active just when both marks are set                           (active_iff_approved_and_verified)

Every change keeps this of a row (`isDerived_apply`), so every event does (`activated_of_moves`).
-/

namespace AccountPortal

namespace Enrollments

/-! ## Rows -/

def IsDerived (e : Enrollment) : Prop := e.active = deriveActive e.nodeApproved e.emailVerified

theorem isDerived_row (n : String) (r : Registration) (now : Int) : IsDerived (r.row n now) := by
  show false = (false && r.emailVerified)
  rw [Bool.false_and]

/-- Each change keeps the mark, or writes it with the marks it follows from. -/
theorem isDerived_apply (c : Change) (now : Int) {rows : List Enrollment}
    (h : ∀ e ∈ rows, IsDerived e) : ∀ e ∈ c.apply now rows, IsDerived e := by
  cases c with
  | enroll id r =>
    show ∀ e ∈ Rows.upsert _ (renewed (r.row id now)) (r.row id now) rows, IsDerived e
    exact Rows.forall_upsert (fun e _ => rfl) (isDerived_row id r now) h
  | approve id value =>
    show ∀ e ∈ Rows.change _ (approved value now) rows, IsDerived e
    exact Rows.forall_change (fun e _ => rfl) h
  | touch id patch =>
    show ∀ e ∈ Rows.change _ (touched patch now) rows, IsDerived e
    exact Rows.forall_change (fun e he => he) h
  | verifyOwner owner =>
    show ∀ e ∈ Rows.change _ (ownerVerified now) rows, IsDerived e
    exact Rows.forall_change (fun e _ => rfl) h

theorem isDerived_after (c : Option Change) (now : Int) {rows : List Enrollment}
    (h : ∀ e ∈ rows, IsDerived e) : ∀ e ∈ after c now rows, IsDerived e := by
  cases c with
  | none => exact h
  | some c => exact isDerived_apply c now h

/-! ## Answers -/

end Enrollments

/-- The enrollments that an answer hands back. -/
def Answer.enrollments : Answer → List Enrollment
  | .record (some (.enrollment e)) => [e]
  | .records rs => rs.filterMap fun
    | .enrollment e => some e
    | _ => none
  | _ => []

namespace Enrollments

variable {rows rows' : List Enrollment} {now : Int} {a : Answer}

theorem mem_of_find? {n : String} {e : Enrollment} (h : find? n rows = some e) : e ∈ rows :=
  List.mem_of_find?_eq_some h

theorem mem_of_mem_answer {n : String} : ∀ e ∈ (answer n rows).enrollments, e ∈ rows := by
  intro e he
  unfold answer at he
  cases hf : find? n rows with
  | none =>
    rw [hf] at he
    cases he
  | some e' =>
    rw [hf] at he
    rw [List.mem_singleton.mp he]
    exact mem_of_find? hf

theorem mem_of_mem_listByOwner (owner : String) :
    ∀ e ∈ (Answer.records ((listByOwner owner rows).map Enrollment.record)).enrollments,
      e ∈ rows := by
  intro e he
  simp only [Answer.enrollments, List.mem_filterMap, List.mem_map] at he
  obtain ⟨r, ⟨e', hmem, rfl⟩, heq⟩ := he
  cases heq
  unfold listByOwner at hmem
  exact (List.mem_filter.mp (List.mem_mergeSort.mp hmem)).1

theorem mem_of_mem_checkToken (n raw : String) :
    ∀ e ∈ (checkToken n raw rows).enrollments, e ∈ rows := by
  intro e he
  unfold checkToken at he
  split at he
  · cases he
  · next e' hf =>
    split at he
    · rw [List.mem_singleton.mp he]
      exact mem_of_find? hf
    · cases he

/-- What a request hands back are rows as it leaves them. -/
theorem mem_of_mem_enrollments {r : Request} (h : Answered now rows r rows' a) :
    ∀ e ∈ a.enrollments, e ∈ rows' := by
  cases h with
  | enroll hk => exact mem_of_mem_answer
  | approve id value => exact mem_of_mem_answer
  | touch hp => exact mem_of_mem_answer
  | verifyOwner owner =>
    intro e he
    cases he
  | get id => exact mem_of_mem_answer
  | listByOwner owner => exact mem_of_mem_listByOwner owner
  | checkToken id raw => exact mem_of_mem_checkToken id raw

/-! ## Runs -/

variable {settings : Settings}

def Activated (t : Tables) : Prop := ∀ e ∈ t.enrollments, IsDerived e

theorem activated_of_moves (e : Event) (t u : Tables) (h : e.Moves settings (some t) (some u))
    (ht : Activated t) : Activated u := by
  unfold Activated
  rw [enrollments_of_moves h]
  exact isDerived_after e.change? e.clock ht

theorem activated_of_course {h : List Event} {tables : Option Tables}
    (course : Course settings (some .empty) h tables) : ∀ t, tables = some t → Activated t :=
  course.invariant (fun e he => by cases he) activated_of_moves

/-- What is handed back in a course was activated when it was handed back. -/
theorem isDerived_of_answer {h : List Event} {tables : Option Tables}
    (course : Course settings (some .empty) h tables) {now : Int} {r : Request} {a : Answer}
    (he : ⟨now, .call (.enrollments r) (.ok a)⟩ ∈ h) : ∀ e ∈ a.enrollments, IsDerived e := by
  obtain ⟨passed, rest, heq⟩ := List.append_of_mem he
  obtain ⟨before, after, first, moves, -⟩ := course.middle heq
  cases before with
  | none =>
    -- without tables no request on the enrollments is answered
    obtain ⟨provider, subject, heq⟩ := Call.eq_find_of_answered (Event.moves_none moves).2
    cases heq
  | some t =>
    obtain ⟨u, rfl, heffect⟩ := Event.moves_ok moves
    obtain ⟨rows, hr, rfl⟩ := Plan.exists_of_effectOf_on heffect fun _ => rfl
    intro e hmem
    have activated := activated_of_moves _ t _ moves (activated_of_course first t rfl)
    exact activated e (mem_of_mem_enrollments (answered_of_effect r hr) e hmem)

end Enrollments

open Enrollments in
/-- After every run from a new portal, and so after each of its steps, a node is active just when
both marks are set, and every node that a call on the enrollments hands back is active just when
its state says so. -/
theorem active_iff_approved_and_verified (settings : Settings) (clock : Int)
    (steps : List Portal.Step) :
    (∀ t, ((Portal.fresh settings clock).run steps).1.tables = some t →
      ∀ e ∈ t.enrollments, e.active = (e.nodeApproved && e.emailVerified)) ∧
    ∀ now r a, ⟨now, .call (.enrollments r) (.ok a)⟩ ∈ (Portal.fresh settings clock).history steps →
      ∀ e ∈ a.enrollments, (e.active = true ↔ e.state = .active) := by
  have course := (Portal.fresh settings clock).run_course steps
  constructor
  · intro t ht e he
    exact activated_of_course course t ht e he
  · intro now r a hmem e he
    have derived : IsDerived e := isDerived_of_answer course hmem e he
    rw [derived]
    exact (enrollmentState_eq_active_iff e.nodeApproved e.emailVerified).symm

/-- A node that is approved first, and verified through its owner's account after that. -/
theorem active_after_approval_and_verification :
    let node : Enrollment :=
      { Enrollments.fresh "n" .agent "u" "u@x" "h" false 0 with
        nodeApproved := true, emailVerified := true, active := true, updatedAt := 5 }
    let steps : List Portal.Step :=
      [.call (.enrollments (.enroll "n" (.text "agent") "u" "u@x" "h" false)),
        .call (.enrollments (.approve "n" true)), .advance 5,
        .call (.accounts (.create "u" "u@x" none none false)), .call (.accounts (.verifyEmail "u")),
        .call (.enrollments (.get "n"))]
    let p := Portal.fresh .standard 0
    let t := { Tables.empty with
      users := [⟨"u", "u@x", true, none, none, 5, some 5⟩], enrollments := [node] }
    ((p.run steps).1.tables = some t ∧ node ∈ t.enrollments ∧
      node.active = (node.nodeApproved && node.emailVerified)) ∧
    (⟨5, .call (.enrollments (.get "n")) (.ok (.record (some (.enrollment node))))⟩ ∈
        p.history steps ∧
      node ∈ (Answer.record (some (.enrollment node))).enrollments ∧
      (node.active = true ↔ node.state = .active)) := by
  intro node steps p t
  have ht : (p.run steps).1.tables = some t := rfl
  have hnode : node ∈ t.enrollments := List.mem_singleton.mpr rfl
  have hget :
      (⟨5, .call (.enrollments (.get "n")) (.ok (.record (some (.enrollment node))))⟩ : Event) ∈
        p.history steps := List.mem_of_getElem? (i := 4) rfl
  have hanswer : node ∈ (Answer.record (some (.enrollment node))).enrollments :=
    List.mem_singleton.mpr rfl
  have law := active_iff_approved_and_verified .standard 0 steps
  exact ⟨⟨ht, hnode, law.1 t ht node hnode⟩, hget, hanswer, law.2 5 _ _ hget node hanswer⟩

end AccountPortal

import AccountPortal.Proofs.Credential.Password
import AccountPortal.Proofs.Enrollment.Chronicle

/-!
# The token of a node

A node is vouched for by the token whose hash its last registration was made with, and by no other:

    (find? n rows).map (·.registrationTokenHash)
      = (latest (registration? n) h).map (·.tokenHash)                            (Tracks.token)
    checkToken n raw rows = .record (some e.record) ↔ e.registrationTokenHash = Token.hash raw
      for the row e of n                                                 (checkToken_of_find?)

So what is accepted changes with the next registration and with nothing else
(`token_follows_registration`).
-/

namespace AccountPortal

namespace Enrollments

variable {n raw : String} {rows : List Enrollment} {h : List Event}

/-- The last registration of the node was made with the hash of the token. -/
def Vouches (n raw : String) (h : List Event) : Prop :=
  ∃ last, latest (registration? n) h = some last ∧ last.tokenHash = Token.hash raw

/-- A token is refused for a node that is not known, and as not the node's own for one that is. -/
def Refused (out : Except Fault Answer) : Prop := out = .ok (.record none) ∨ out = .ok .mismatch

/-! ## Rows -/

theorem checkToken_of_unknown (unknown : find? n rows = none) (raw : String) :
    checkToken n raw rows = .record none := by
  rw [checkToken, unknown]

theorem checkToken_of_find? {e : Enrollment} (known : find? n rows = some e) (raw : String) :
    checkToken n raw rows =
      if e.registrationTokenHash = Token.hash raw then .record (some e.record) else .mismatch := by
  rw [checkToken, known]
  simp only [sameText_eq_true_iff]

/-- The hash in the row of a node is that of its last registration. -/
theorem Tracks.token (tracks : Tracks n h rows) :
    (find? n rows).map (·.registrationTokenHash) =
      (latest (registration? n) h).map (·.tokenHash) := by
  rw [find?_eq_head?]
  unfold Tracks at tracks
  cases known : latest (registration? n) h with
  | none =>
    rw [known] at tracks
    rw [tracks.1]
    rfl
  | some last =>
    rw [known] at tracks
    obtain ⟨r, hrow, hf⟩ := tracks
    rw [hrow]
    exact congrArg some hf.registrationTokenHash

theorem Tracks.accepted (tracks : Tracks n h rows) (vouched : Vouches n raw h) :
    ∃ e : Enrollment, answer n rows = .record (some e.record) ∧
      checkToken n raw rows = .record (some e.record) := by
  obtain ⟨last, known, own⟩ := vouched
  have token := tracks.token
  rw [known] at token
  obtain ⟨e, he, hash⟩ := Option.map_eq_some_iff.mp token
  refine ⟨e, by rw [answer, he, Option.map_some], ?_⟩
  rw [checkToken_of_find? he, if_pos (hash.trans own)]

theorem Tracks.refused (tracks : Tracks n h rows) (unvouched : ¬ Vouches n raw h) :
    Refused (.ok (checkToken n raw rows)) := by
  have token := tracks.token
  cases he : find? n rows with
  | none => exact .inl (congrArg Except.ok (checkToken_of_unknown he raw))
  | some e =>
    rw [he] at token
    obtain ⟨last, known, hash⟩ := Option.map_eq_some_iff.mp token.symm
    have other : ¬ e.registrationTokenHash = Token.hash raw :=
      fun own => unvouched ⟨last, known, hash.trans own⟩
    refine .inr ?_
    rw [checkToken_of_find? he, if_neg other]

/-! ## Histories -/

/-- Only a registration of the node changes what vouches for it. -/
theorem vouches_append_iff {more : List Event} (silent : ∀ e ∈ more, registration? n e = none) :
    Vouches n raw (h ++ more) ↔ Vouches n raw h := by
  unfold Vouches
  rw [latest_append, (latest_eq_none_iff _ _).mpr silent, Option.none_or]

theorem effect_get (ctx : Context) (n : String) (t : Tables) :
    (Call.enrollments (.get n)).effect ctx t = .ok (t, answer n t.enrollments) :=
  rfl

theorem effect_checkToken (ctx : Context) (n raw : String) (t : Tables) :
    (Call.enrollments (.checkToken n raw)).effect ctx t = .ok (t, checkToken n raw t.enrollments) :=
  rfl

/-- No answer refuses a token and accepts it. -/
theorem not_refused_of_accepted {out : Except Fault Answer} {r : Record}
    (accepted : out = .ok (.record (some r))) : ¬ Refused out := by
  subst accepted
  rintro (h | h) <;> cases h

variable {p : Portal} {t : Tables}

/-- A token is accepted for a node, and with it the row that a look-up finds, just when it vouches
for the node by the history. -/
theorem Tracks.outcomes (tracks : Tracks n h t.enrollments) (raw : String)
    (there : p.tables = some t) :
    (Vouches n raw h → ∃ e : Enrollment,
      (p.call (.enrollments (.get n))).2.outcome = .ok (.record (some e.record)) ∧
      (p.call (.enrollments (.checkToken n raw))).2.outcome = .ok (.record (some e.record))) ∧
    (¬ Vouches n raw h → Refused (p.call (.enrollments (.checkToken n raw))).2.outcome) := by
  rw [Portal.outcome_of_effect_ok there (effect_get _ n t),
    Portal.outcome_of_effect_ok there (effect_checkToken _ n raw t)]
  constructor
  · intro vouched
    obtain ⟨e, found, checked⟩ := tracks.accepted vouched
    exact ⟨e, congrArg Except.ok found, congrArg Except.ok checked⟩
  · exact tracks.refused

theorem Tracks.accepts_iff (tracks : Tracks n h t.enrollments) (there : p.tables = some t) :
    (∃ e : Enrollment, (p.call (.enrollments (.checkToken n raw))).2.outcome =
      .ok (.record (some e.record))) ↔ Vouches n raw h := by
  obtain ⟨accepted, refused⟩ := tracks.outcomes raw there
  constructor
  · rintro ⟨e, he⟩
    by_contra unvouched
    exact not_refused_of_accepted he (refused unvouched)
  · intro vouched
    obtain ⟨e, -, checked⟩ := accepted vouched
    exact ⟨e, checked⟩

end Enrollments

open Enrollments

/-- While the schema is kept, whoever shows a token for a node is answered with the row that a
look-up of the node finds when the last registration of the node was made with the hash of the
token, and is refused otherwise, after the run and within it. Nothing that happens afterwards and
registers the node no more changes which tokens are accepted. -/
theorem token_follows_registration (settings : Settings) (clock : Int) (steps : List Portal.Step)
    (kept : .dropSchema ∉ steps) (n raw : String) :
    let p := Portal.fresh settings clock
    let q := (p.run steps).1
    let checked (s : Portal) := (s.call (.enrollments (.checkToken n raw))).2.outcome
    (Vouches n raw (p.history steps) → ∃ e : Enrollment,
      (q.call (.enrollments (.get n))).2.outcome = .ok (.record (some e.record)) ∧
      checked q = .ok (.record (some e.record))) ∧
    (¬ Vouches n raw (p.history steps) → Refused (checked q)) ∧
    (∀ passed now out rest,
      p.history steps = passed ++ ⟨now, .call (.enrollments (.checkToken n raw)) out⟩ :: rest →
      (Vouches n raw passed → ∃ e : Enrollment, out = .ok (.record (some e.record))) ∧
      (¬ Vouches n raw passed → Refused out)) ∧
    ∀ more, .dropSchema ∉ more → (∀ e ∈ q.history more, registration? n e = none) →
      ((∃ e : Enrollment, checked (q.run more).1 = .ok (.record (some e.record))) ↔
        ∃ e : Enrollment, checked q = .ok (.record (some e.record))) := by
  intro p q checked
  have course : Course settings (some .empty) (p.history steps) q.tables := p.run_course steps
  have keeps := p.kept_of_not_mem kept
  obtain ⟨t, there, tracks⟩ := tracks_of_course (n := n) course keeps
  obtain ⟨accepted, refused⟩ := tracks.outcomes raw there
  refine ⟨accepted, refused, ?_, ?_⟩
  · intro passed now out rest heq
    obtain ⟨before, after, first, keeps, moves⟩ := course.kept_before keeps heq
    obtain ⟨t, rfl, tracks⟩ := tracks_of_course (n := n) first keeps
    rw [(Event.eq_of_moves moves (effect_checkToken _ n raw t)).2]
    refine ⟨fun vouched => ?_, tracks.refused⟩
    obtain ⟨e, -, answered⟩ := tracks.accepted vouched
    exact ⟨e, congrArg Except.ok answered⟩
  · intro more keptMore silent
    have keptBoth : .dropSchema ∉ steps ++ more := by simp [kept, keptMore]
    obtain ⟨u, thereMore, tracksMore⟩ := tracks_of_course (n := n)
      (p.run_course (steps ++ more)) (p.kept_of_not_mem keptBoth)
    rw [p.run_append] at thereMore
    rw [p.history_append] at tracksMore
    rw [tracksMore.accepts_iff thereMore, tracks.accepts_iff there, vouches_append_iff silent]

/-- A node that registers twice, and is approved, checked and verified after that while the clock
goes back: the first token is refused and the second one accepted until the end. -/
theorem second_token_of_node_accepted :
    let enroll (hash : String) : Portal.Step :=
      .call (.enrollments (.enroll "n" (.text "agent") "u" "u@x" hash false))
    let steps : List Portal.Step := [enroll (Token.hash "old"), enroll (Token.hash "new")]
    let more : List Portal.Step :=
      [.call (.enrollments (.approve "n" true)), .advance (-5),
        .call (.enrollments (.touch "n" none)), .call (.enrollments (.verifyOwner "u"))]
    let q := ((Portal.fresh .standard 0).run steps).1
    let checked (s : Portal) (raw : String) :=
      (s.call (.enrollments (.checkToken "n" raw))).2.outcome
    .dropSchema ∉ steps ∧ .dropSchema ∉ more ∧ Refused (checked q "old") ∧
      (∃ e : Enrollment,
        (q.call (.enrollments (.get "n"))).2.outcome = .ok (.record (some e.record)) ∧
        checked q "new" = .ok (.record (some e.record))) ∧
      ∃ e : Enrollment, checked (q.run more).1 "new" = .ok (.record (some e.record)) := by
  intro enroll steps more q checked
  have kept : .dropSchema ∉ steps := by simp [steps, enroll]
  have keptMore : .dropSchema ∉ more := by simp [more]
  obtain ⟨-, refused, -, -⟩ := token_follows_registration .standard 0 steps kept "n" "old"
  obtain ⟨accepted, -, -, lasting⟩ := token_follows_registration .standard 0 steps kept "n" "new"
  -- the hashes are names while the history is computed
  have known : latest (registration? "n") ((Portal.fresh .standard 0).history steps) =
      some ⟨.agent, "u", "u@x", Token.hash "new", false⟩ := by
    simp only [steps, enroll]
    generalize Token.hash "old" = first
    generalize Token.hash "new" = second
    rfl
  have silent : (q.history more).filterMap (registration? "n") = [] := by
    simp only [q, steps, enroll, more]
    generalize Token.hash "old" = first
    generalize Token.hash "new" = second
    rfl
  have vouched : Vouches "n" "new" ((Portal.fresh .standard 0).history steps) := ⟨_, known, rfl⟩
  have unvouched : ¬ Vouches "n" "old" ((Portal.fresh .standard 0).history steps) := by
    rintro ⟨last, hlast, own⟩
    rw [known, Option.some.injEq] at hlast
    rw [← hlast] at own
    have differ : Token.hash "new" ≠ Token.hash "old" := by decide +kernel
    exact differ own
  obtain ⟨e, found, checkedNew⟩ := accepted vouched
  refine ⟨kept, keptMore, refused unvouched, ⟨e, found, checkedNew⟩, ?_⟩
  exact (lasting more keptMore (List.filterMap_eq_nil_iff.mp silent)).mpr ⟨e, checkedNew⟩

end AccountPortal

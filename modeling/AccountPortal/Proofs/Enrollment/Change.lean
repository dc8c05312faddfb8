import AccountPortal.Proofs.History
import AccountPortal.Proofs.Rows

/-!
# Changes of the enrollments

Four changes are all that ever happens to the enrollments: a node enrolls, its approval is set, a
check of it is recorded, and the nodes of an owner learn that the owner's email is verified. The
last one comes from two stores. `Event.change?` reads the change off an event and its outcome, and
no event does anything else to the enrollments:

    e.Moves settings (some t) (some u) →
      u.enrollments = after e.change? e.clock t.enrollments               (enrollments_of_moves)

`ofNode n rows` are the rows of node `n`, and each change acts on them alone (`ofNode_apply`).
-/

namespace AccountPortal.Enrollments

/-! ## The changes -/

/-- What a node enrolls with. -/
structure Registration where
  kind : NodeKind
  ownerUserId : String
  ownerEmail : String
  tokenHash : String
  emailVerified : Bool

inductive Change where
  | enroll (nodeId : String) (r : Registration)
  | approve (nodeId : String) (value : Bool)
  | touch (nodeId : String) (patch : ValidationPatch)
  | verifyOwner (ownerUserId : String)

def Registration.row (nodeId : String) (r : Registration) (now : Int) : Enrollment :=
  fresh nodeId r.kind r.ownerUserId r.ownerEmail r.tokenHash r.emailVerified now

def Change.apply (now : Int) : Change → List Enrollment → List Enrollment
  | .enroll id r, rows => (Enrollments.enroll (r.row id now) rows).1
  | .approve id value, rows => (change id (approved value now) rows).1
  | .touch id patch, rows => (change id (touched patch now) rows).1
  | .verifyOwner owner, rows => (Enrollments.verifyOwner owner now rows).1

/-- The change that a request makes that has this answer. A request that is answered with nothing
makes none. -/
def Request.change? : Request → Answer → Option Change
  | .enroll id kind owner email hash verified, .record (some _) =>
    (Choice.ofValue? kind).map fun k => .enroll id ⟨k, owner, email, hash, verified⟩
  | .approve id value, .record (some _) => some (.approve id value)
  | .touch id form, .record (some _) => (patchOf form).toOption.map (.touch id)
  | .verifyOwner owner, .count _ => some (.verifyOwner owner)
  | _, _ => none

/-- The rows after a change, or as they were. -/
def after (change : Option Change) (now : Int) (rows : List Enrollment) : List Enrollment :=
  match change with
  | some c => c.apply now rows
  | none => rows

end AccountPortal.Enrollments

namespace AccountPortal

/-- Verifying the email of a user who is known tells the user's nodes. -/
def Accounts.Request.change? : Accounts.Request → Answer → Option Enrollments.Change
  | .verifyEmail id, .verified (some _) _ => some (.verifyOwner id)
  | _, _ => none

def Event.change? (e : Event) : Option Enrollments.Change :=
  match e.deed with
  | .call (.enrollments r) (.ok a) => r.change? a
  | .call (.accounts r) (.ok a) => r.change? a
  | _ => none

/-! ## The rows of a node -/

namespace Enrollments

def ofNode (n : String) (rows : List Enrollment) : List Enrollment := rows.filter (·.nodeId == n)

variable {n : String} {now : Int} {rows : List Enrollment} {f : Enrollment → Enrollment}

theorem find?_eq_head? (n : String) (rows : List Enrollment) :
    find? n rows = (ofNode n rows).head? := by
  unfold find? ofNode
  rw [List.head?_filter]

theorem ofNode_change (n id : String) (f : Enrollment → Enrollment) (rows : List Enrollment)
    (hf : ∀ e, (f e).nodeId = e.nodeId) :
    ofNode n (change id f rows).1 = if id = n then (ofNode n rows).map f else ofNode n rows := by
  by_cases hid : id = n
  · subst hid
    rw [if_pos rfl]
    exact Rows.filter_key_change Enrollment.nodeId hf id
  · rw [if_neg hid]
    exact Rows.filter_key_change_of_ne Enrollment.nodeId hf hid

theorem ofNode_verifyOwner (owner : String) :
    ofNode n (verifyOwner owner now rows).1 =
      (ofNode n rows).map fun e => if e.ownerUserId == owner then ownerVerified now e else e := by
  unfold ofNode verifyOwner
  have same : ∀ e : Enrollment, ((ownerVerified now e).nodeId == n) = (e.nodeId == n) :=
    fun e => rfl
  rw [Rows.filter_change same]
  rfl

theorem ofNode_enroll (new : Enrollment) :
    ofNode n (enroll new rows).1 =
      if new.nodeId = n then
        if ofNode n rows = [] then [new] else (ofNode n rows).map (renewed new)
      else ofNode n rows := by
  split
  · next hn =>
    subst hn
    exact Rows.filter_key_upsert (f := renewed new) Enrollment.nodeId (fun _ => rfl) rfl
  · next hn =>
    exact Rows.filter_key_upsert_of_ne (f := renewed new) Enrollment.nodeId (fun _ => rfl) rfl hn

/-- What a change makes of the one row of a node. -/
def Change.onRow (n : String) (now : Int) (e : Enrollment) : Change → Enrollment
  | .enroll id r => if id = n then renewed (r.row id now) e else e
  | .approve id value => if id = n then approved value now e else e
  | .touch id patch => if id = n then touched patch now e else e
  | .verifyOwner owner => if e.ownerUserId == owner then ownerVerified now e else e

theorem ofNode_apply {e : Enrollment} (c : Change) (h : ofNode n rows = [e]) :
    ofNode n (c.apply now rows) = [c.onRow n now e] := by
  cases c with
  | enroll id r =>
    show ofNode n (Enrollments.enroll (r.row id now) rows).1 = _
    rw [ofNode_enroll, h, if_neg (List.cons_ne_nil e [])]
    show (if id = n then _ else _) = [if id = n then _ else _]
    split <;> rfl
  | approve id value =>
    show ofNode n (change id (approved value now) rows).1 = [if id = n then _ else _]
    rw [ofNode_change n id (approved value now) rows fun e => rfl, h]
    split <;> rfl
  | touch id patch =>
    show ofNode n (change id (touched patch now) rows).1 = [if id = n then _ else _]
    rw [ofNode_change n id (touched patch now) rows fun e => rfl, h]
    split <;> rfl
  | verifyOwner owner =>
    show ofNode n (Enrollments.verifyOwner owner now rows).1 = _
    rw [ofNode_verifyOwner, h]
    rfl

/-- A node without a row gets one by its registration alone. -/
theorem ofNode_apply_of_nil (c : Change) (h : ofNode n rows = []) :
    ofNode n (c.apply now rows) =
      match c with
      | .enroll id r => if id = n then [r.row id now] else []
      | _ => [] := by
  cases c with
  | enroll id r =>
    show ofNode n (Enrollments.enroll (r.row id now) rows).1 = _
    rw [ofNode_enroll, h, if_pos rfl]
    rfl
  | approve id value =>
    show ofNode n (change id (approved value now) rows).1 = []
    rw [ofNode_change n id (approved value now) rows fun e => rfl, h]
    split <;> rfl
  | touch id patch =>
    show ofNode n (change id (touched patch now) rows).1 = []
    rw [ofNode_change n id (touched patch now) rows fun e => rfl, h]
    split <;> rfl
  | verifyOwner owner =>
    show ofNode n (Enrollments.verifyOwner owner now rows).1 = []
    rw [ofNode_verifyOwner, h]
    rfl

/-! ## Requests that are answered -/

/-- The rows after a request that is answered, and its answer. -/
inductive Answered (now : Int) (rows : List Enrollment) :
    Request → List Enrollment → Answer → Prop where
  | enroll {id : String} {kind : Value} {owner email hash : String} {verified : Bool}
      {k : NodeKind} (hk : Choice.ofValue? kind = some k) :
      Answered now rows (.enroll id kind owner email hash verified)
        (Enrollments.enroll (fresh id k owner email hash verified now) rows).1
        (Enrollments.enroll (fresh id k owner email hash verified now) rows).2
  | approve (id : String) (value : Bool) :
      Answered now rows (.approve id value) (change id (approved value now) rows).1
        (change id (approved value now) rows).2
  | touch {id : String} {form : Option (Fields Value)} {patch : ValidationPatch}
      (hp : patchOf form = .ok patch) :
      Answered now rows (.touch id form) (change id (touched patch now) rows).1
        (change id (touched patch now) rows).2
  | verifyOwner (owner : String) :
      Answered now rows (.verifyOwner owner) (Enrollments.verifyOwner owner now rows).1
        (.count (Enrollments.verifyOwner owner now rows).2)
  | get (id : String) : Answered now rows (.get id) rows (answer id rows)
  | listByOwner (owner : String) :
      Answered now rows (.listByOwner owner) rows
        (.records ((Enrollments.listByOwner owner rows).map Enrollment.record))
  | checkToken (id raw : String) :
      Answered now rows (.checkToken id raw) rows (Enrollments.checkToken id raw rows)

theorem answered_of_effect {ctx : Context} {rows' : List Enrollment} {a : Answer} (r : Request)
    (h : Plan.effectOf (plan ctx r) rows = .ok (rows', a)) : Answered ctx.clock rows r rows' a := by
  cases r with
  | enroll id kind owner email hash verified =>
    simp only [plan, Choice.coerce] at h
    cases hk : (Choice.ofValue? kind : Option NodeKind) with
    | none =>
      rw [hk] at h
      cases h
    | some k =>
      rw [hk] at h
      obtain ⟨-, rfl, rfl⟩ := Plan.effect_update_eq_ok_iff.mp h
      exact .enroll hk
  | approve id value =>
    obtain ⟨-, rfl, rfl⟩ := Plan.effect_update_eq_ok_iff.mp h
    exact .approve id value
  | verifyOwner owner =>
    simp only [plan, Plan.effectOf_ok] at h
    obtain ⟨-, rfl, rfl⟩ := Plan.effect_update_eq_ok_iff.mp h
    exact .verifyOwner owner
  | touch id form =>
    simp only [plan] at h
    cases hp : patchOf form with
    | error issues =>
      rw [hp] at h
      cases h
    | ok patch =>
      rw [hp] at h
      obtain ⟨-, rfl, rfl⟩ := Plan.effect_update_eq_ok_iff.mp h
      exact .touch hp
  | get id =>
    cases h
    exact .get id
  | listByOwner owner =>
    cases h
    exact .listByOwner owner
  | checkToken id raw =>
    cases h
    exact .checkToken id raw

/-! ## Requests make their changes -/

theorem ofNode_eq_nil_iff : ofNode n rows = [] ↔ ∀ e ∈ rows, (e.nodeId == n) = false := by
  simp [ofNode, List.filter_eq_nil_iff]

/-- A change that finds no row to answer with has changed none. -/
theorem change_eq_self_of_find? (hf : ∀ e, (f e).nodeId = e.nodeId)
    (h : find? n (change n f rows).1 = none) : (change n f rows).1 = rows := by
  rw [find?_eq_head?, ofNode_change n n f rows hf, if_pos rfl, List.head?_eq_none_iff,
    List.map_eq_nil_iff, ofNode_eq_nil_iff] at h
  exact Rows.change_eq_self h

/-- A change that is answered with a row found one. -/
theorem ofNode_ne_nil_of_find? {e : Enrollment} (hf : ∀ e, (f e).nodeId = e.nodeId)
    (h : find? n (change n f rows).1 = some e) : ofNode n rows ≠ [] := by
  rw [find?_eq_head?, ofNode_change n n f rows hf, if_pos rfl] at h
  intro unknown
  rw [unknown] at h
  cases h

/-- A node that enrolls is answered with its row. -/
theorem enroll_answer (new : Enrollment) (rows : List Enrollment) :
    ∃ e, (enroll new rows).2 = .record (some e) := by
  show ∃ e, answer new.nodeId (enroll new rows).1 = .record (some e)
  unfold answer
  rw [find?_eq_head?, ofNode_enroll, if_pos rfl]
  split
  · exact ⟨new.record, rfl⟩
  · next known =>
    obtain ⟨e, rest, heq⟩ := List.exists_cons_of_ne_nil known
    exact ⟨(renewed new e).record, by rw [heq]; rfl⟩

variable {rows' : List Enrollment} {a : Answer}

/-- The answer of a change: nothing when it found no row, and then it left the rows alone. -/
theorem change_answer (n : String) (rows : List Enrollment)
    (hf : ∀ e, (f e).nodeId = e.nodeId) :
    ((change n f rows).2 = .record none ∧ (change n f rows).1 = rows) ∨
      ∃ e, (change n f rows).2 = .record (some e) := by
  show (answer n (change n f rows).1 = .record none ∧ _) ∨ ∃ e, answer n (change n f rows).1 = _
  unfold answer
  cases he : find? n (change n f rows).1 with
  | none => exact Or.inl ⟨rfl, change_eq_self_of_find? hf he⟩
  | some e => exact Or.inr ⟨e.record, rfl⟩

/-- A request that is answered makes its change and no other. -/
theorem rows_of_answered {r : Request} (h : Answered now rows r rows' a) :
    rows' = after (r.change? a) now rows := by
  cases h with
  | @enroll id kind owner email hash verified k hk =>
    obtain ⟨e, he⟩ := enroll_answer (fresh id k owner email hash verified now) rows
    rw [he]
    simp only [Request.change?, hk]
    rfl
  | approve id value =>
    rcases change_answer (f := approved value now) id rows (fun e => rfl) with
      ⟨hnone, hsame⟩ | ⟨e, hsome⟩
    · rw [hnone, hsame]
      rfl
    · rw [hsome]
      rfl
  | @touch id form patch hp =>
    rcases change_answer (f := touched patch now) id rows (fun e => rfl) with
      ⟨hnone, hsame⟩ | ⟨e, hsome⟩
    · rw [hnone, hsame]
      rfl
    · rw [hsome]
      simp only [Request.change?, hp]
      rfl
  | verifyOwner owner => rfl
  | get id => rfl
  | listByOwner owner => rfl
  | checkToken id raw =>
    unfold checkToken
    split
    · rfl
    · split <;> rfl

end Enrollments

namespace Accounts

variable {ctx : Context} {users users' : List User} {nodes nodes' : List Enrollment} {a : Answer}

theorem effect_onUsers (plan : Plan (List User)) (s : List User × List Enrollment) :
    (onUsers plan).effect s = (plan.effect s.1).map fun (users, a) => ((users, s.2), a) :=
  Plan.effect_on _ _ plan s fun _ => rfl

theorem nodes_of_onUsers {plan : Plan (List User)}
    (h : (onUsers plan).effect (users, nodes) = .ok ((users', nodes'), a)) : nodes' = nodes := by
  rw [effect_onUsers] at h
  obtain ⟨r, -, heq⟩ := Except.map_eq_ok_iff.mp h
  cases heq
  rfl

/-- Of all requests on the accounts only the verification of a known user tells any node. -/
theorem nodes_of_effect (r : Request)
    (h : Plan.effectOf (plan ctx r) (users, nodes) = .ok ((users', nodes'), a)) :
    nodes' = Enrollments.after (r.change? a) ctx.clock nodes := by
  cases r with
  | verifyEmail id =>
    simp only [plan, Plan.effectOf_ok] at h
    obtain ⟨-, hs, rfl⟩ := Plan.effect_update_eq_ok_iff.mp h
    unfold verifyEmail at hs ⊢
    split
    · next unknown =>
      rw [unknown] at hs
      cases hs
      rfl
    · next u known =>
      rw [known] at hs
      cases hs
      rfl
  | _ =>
    simp only [plan, Plan.effectOf_ok] at h
    exact nodes_of_onUsers h

end Accounts

/-! ## Events -/

namespace Enrollments

variable {ctx : Context} {t u : Tables} {a : Answer}

theorem enrollments_of_effect (c : Call) (h : c.effect ctx t = .ok (u, a)) :
    u.enrollments = after (Event.change? ⟨ctx.clock, .call c (.ok a)⟩) ctx.clock t.enrollments := by
  cases c with
  | accounts r =>
    obtain ⟨⟨users, nodes⟩, hr, rfl⟩ := Plan.exists_of_effectOf_on h fun _ => rfl
    exact Accounts.nodes_of_effect r hr
  | enrollments r =>
    obtain ⟨rows, hr, rfl⟩ := Plan.exists_of_effectOf_on h fun _ => rfl
    exact rows_of_answered (answered_of_effect r hr)
  | purgeExpired =>
    obtain ⟨-, rfl, -⟩ := Plan.effect_update_eq_ok_iff.mp h
    rfl
  | _ => exact Plan.keep_of_effectOf_on h (fun _ => rfl) Tables.enrollments fun _ _ => rfl

/-- What an event does to the enrollments. -/
theorem enrollments_of_moves {settings : Settings} {e : Event}
    (h : e.Moves settings (some t) (some u)) :
    u.enrollments = after e.change? e.clock t.enrollments := by
  obtain ⟨now, deed⟩ := e
  cases deed with
  | migrate =>
    cases h
    rfl
  | dropSchema => cases h
  | call c out =>
    cases out with
    | error f =>
      have same := Event.moves_error h
      cases same
      cases c <;> rfl
    | ok a =>
      obtain ⟨v, hv, he⟩ := Event.moves_ok h
      cases hv
      exact enrollments_of_effect c he

end Enrollments

end AccountPortal

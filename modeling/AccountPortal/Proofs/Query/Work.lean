import AccountPortal.Proofs.Effect
import AccountPortal.Proofs.Query.Statement

/-!
# Calls as work on the database

Work carries a call out as the database is told it: statements one after another, some of them
committed together, and the records read from what they handed back when that is done. A failure
leaves whatever was written until then: only a transaction undoes the writes of its own statements.
Work realizes a plan when on tables whose keys differ it comes to just what was planned, all of it
or nothing, so that neither a key nor a number of rows nor a record that cannot be read goes wrong,
and when the keys still differ then:

    work prepared tables = Plan.outcome (prepared 0) planned tables               (Realizes.work_eq)
-/

namespace AccountPortal

/-- Work on the database: what it leaves of the tables, also where it fails. -/
def Work (α : Type) : Type := Option Tables → Option Tables × Except Failure α

namespace Work

variable {α β : Type}

def answer (a : α) : Work α := fun tables => (tables, .ok a)

def refuse (f : Failure) : Work α := fun tables => (tables, .error f)

/-- What the first has written stays when the second fails. -/
def andThen (first : Work α) (second : α → Work β) : Work β := fun tables =>
  match first tables with
  | (after, .ok a) => second a after
  | (after, .error f) => (after, .error f)

instance : Monad Work where
  pure := answer
  bind := andThen

/-- Statements that are committed together: what they have written is undone when one fails. -/
def transaction (w : Work α) : Work α := fun tables =>
  match w tables with
  | (after, .ok a) => (after, .ok a)
  | (_, .error f) => (tables, .error f)

/-- What is refused is refused before any statement. -/
def checked (x : Except Fault α) (work : α → Work β) : Work β :=
  match x with
  | .ok a => work a
  | .error f => refuse (.fault f)

/-- A statement on the table of its rows, if there are tables. -/
def statement [Row α] [Keyed α] [Placed α] (prepared : Bool) (q : Query α β) : Work β
  | none =>
    let f : Fault :=
      if prepared && !q.integers.all fitsWord then .integerOutOfRange else .schemaMissing
    (none, .error (.fault f))
  | some t =>
    let (rows, out) := q.run (Placed.rows t)
    (some (Placed.withRows rows t), out)

end Work

/-! ## Reading what is handed back -/

namespace Answer

def readBack (r : Record) : Except ReadFault Record := r.kind.read r.columns

def readAll : List Record → Except ReadFault (List Record)
  | [] => .ok []
  | r :: rest =>
    match readBack r with
    | .ok r => (readAll rest).map (r :: ·)
    | .error f => .error f

/-- The answer with its records read from the columns that a statement handed back. -/
def handBack : Answer → Except ReadFault Answer
  | .record (some r) => (readBack r).map fun r => .record (some r)
  | .records rs => (readAll rs).map .records
  | .verified (some u) n =>
    match readUser (Row.columns u) with
    | .ok u => .ok (.verified (some u) n)
    | .error issues => .error (.invalid issues)
  | a => .ok a

def Stored : Answer → Prop
  | .record (some r) => r.Stored
  | .records rs => ∀ r ∈ rs, r.Stored
  | _ => True

theorem readAll_of_stored {rs : List Record} (h : ∀ r ∈ rs, r.Stored) : readAll rs = .ok rs := by
  induction rs with
  | nil => rfl
  | cons r rest ih =>
    have first : readBack r = .ok r := read_columns (h r List.mem_cons_self)
    have others := ih fun s hs => h s (List.mem_cons_of_mem r hs)
    simp only [readAll, first, others]
    rfl

theorem handBack_of_stored {a : Answer} (h : a.Stored) : a.handBack = .ok a := by
  unfold handBack
  split
  · next r =>
    have read : readBack r = .ok r := read_columns h
    rw [read]
    rfl
  · next rs =>
    rw [readAll_of_stored h]
    rfl
  · next u n =>
    rw [readUser_columns]
  · rfl

end Answer

namespace Work

variable {α β : Type}

def handBack (a : Answer) : Work Answer :=
  match a.handBack with
  | .ok a => answer a
  | .error f => refuse (.reading f)

theorem handBack_of_stored {a : Answer} (h : a.Stored) : handBack a = answer a := by
  unfold handBack
  rw [Answer.handBack_of_stored h]

/-- One statement, whose records are read once it is committed. -/
def single (α : Type) [Row α] [Keyed α] [Placed α] (prepared : Bool) (q : Query α Answer) :
    Work Answer := do
  let a ← transaction (statement prepared q)
  handBack a

/-! ## How work goes on -/

section bind

variable {tables after : Option Tables} {w : Work α} {k : α → Work β} {a : α} {f : Failure}

theorem bind_of_ok (h : w tables = (after, .ok a)) : (w >>= k) tables = k a after := by
  show andThen w k tables = _
  unfold andThen
  rw [h]

theorem bind_of_error (h : w tables = (after, .error f)) :
    (w >>= k) tables = (after, .error f) := by
  show andThen w k tables = _
  unfold andThen
  rw [h]

theorem transaction_of_ok (h : w tables = (after, .ok a)) :
    transaction w tables = (after, .ok a) := by
  unfold transaction
  rw [h]

/-- Whatever was written before a failure is undone. -/
theorem transaction_of_error (h : w tables = (after, .error f)) :
    transaction w tables = (tables, .error f) := by
  unfold transaction
  rw [h]

end bind

section statements

variable [Row α] [Keyed α] [Placed α] {q : Query α β} {prepared : Bool} {t : Tables}

theorem statement_of_run {rows : List α} {out : Except Failure β}
    (h : q.run (Placed.rows t) = (rows, out)) :
    statement prepared q (some t) = (some (Placed.withRows rows t), out) := by
  simp only [statement, h]

/-- A statement that no integer, no key and no number of rows stops. -/
theorem statement_of_sound (fits : q.integers.all fitsWord = true)
    (keeps : KeysDiffer (Placed.rows (α := α) t) → KeysDiffer (q.write.after (Placed.rows t)))
    (counted : q.expected.allows (q.write.returned (Placed.rows t)).length = true) :
    statement prepared q (some t) =
      (some (Placed.withRows (q.write.after (Placed.rows t)) t),
        .ok (q.answer (q.write.returned (Placed.rows t)))) := by
  have ran := Query.run_of_sound keeps counted
  rw [if_pos fits] at ran
  exact statement_of_run ran

theorem statement_of_unfit (unfit : q.integers.all fitsWord = false) :
    statement prepared q (some t) = (some t, .error (.fault .integerOutOfRange)) := by
  rw [statement_of_run (q.run_of_unfit unfit _), Placed.withRows_rows]

end statements

end Work

/-! ## What was planned -/

/-- All that a plan has to write, or nothing and its fault. -/
def Plan.outcome {σ : Type} (prepared : Bool) (planned : Except Fault (Plan σ))
    (tables : Option σ) : Option σ × Except Failure Answer :=
  allOrNothing tables (planned.bind fun plan => plan.execute prepared tables)

/-- Without tables a transaction fails, by its integers where its statement is prepared. -/
theorem Plan.outcome_transaction_none {σ : Type} (prepared : Bool) (integers : List Int)
    (body : σ → Except Fault (σ × Answer)) :
    outcome prepared (.ok (.transaction integers body)) none =
      (none, .error (.fault (if prepared && !integers.all fitsWord then .integerOutOfRange
        else .schemaMissing))) :=
  congrArg (allOrNothing none) (execute_transaction_none prepared integers body)

theorem Plan.outcome_some {σ : Type} (prepared : Bool) (planned : Except Fault (Plan σ)) (s : σ) :
    outcome prepared planned (some s) =
      allOrNothing (some s) ((effectOf planned s).map fun (s, a) => (some s, a)) := by
  cases planned with
  | error f => rfl
  | ok plan => exact congrArg (allOrNothing (some s)) (execute_some prepared plan s)

theorem Plan.outcome_of_ok {σ : Type} {prepared : Bool} {planned : Except Fault (Plan σ)}
    {s s' : σ} {a : Answer} (h : effectOf planned s = .ok (s', a)) :
    outcome prepared planned (some s) = (some s', .ok a) := by
  rw [outcome_some, h]
  rfl

theorem Plan.outcome_of_error {σ : Type} {prepared : Bool} {planned : Except Fault (Plan σ)}
    {s : σ} {f : Fault} (h : effectOf planned s = .error f) :
    outcome prepared planned (some s) = (some s, .error (.fault f)) := by
  rw [outcome_some, h]
  rfl

theorem Plan.effectOf_onTable {α : Type} [Row α] [Keyed α] [Placed α] {plan : Plan (List α)}
    {t : Tables} {out : Except Fault (List α × Answer)} (h : plan.effect (Placed.rows t) = out) :
    effectOf (.ok plan.onTable) t = out.map fun (rows, a) => (Placed.withRows rows t, a) := by
  rw [effectOf_ok, onTable, effect_on _ _ _ _ Placed.withRows_rows, h]

/-- Work that comes to what was planned, and leaves such tables as it finds. -/
structure Realizes (planned : Except Fault (Plan Tables)) (work : (Nat → Bool) → Work Answer) :
    Prop where
  gone : ∀ prepared, work prepared none = Plan.outcome (prepared 0) planned none
  comes : ∀ prepared t, t.KeysDiffer →
    (∀ u a, Plan.effectOf planned t = .ok (u, a) → a.Stored) →
      work prepared (some t) = Plan.outcome (prepared 0) planned (some t)
  keeps : ∀ t u a, t.KeysDiffer → Plan.effectOf planned t = .ok (u, a) → u.KeysDiffer

namespace Realizes

open Work

variable {α β : Type} {planned : Except Fault (Plan Tables)} {work : (Nat → Bool) → Work Answer}

theorem work_eq (h : Realizes planned work) (prepared : Nat → Bool) {tables : Option Tables}
    (differ : ∀ t, tables = some t → t.KeysDiffer)
    (stored : ∀ t u a, tables = some t → Plan.effectOf planned t = .ok (u, a) → a.Stored) :
    work prepared tables = Plan.outcome (prepared 0) planned tables := by
  cases tables with
  | none => exact h.gone prepared
  | some t => exact h.comes prepared t (differ t rfl) fun u a => stored t u a rfl

theorem error (f : Fault) : Realizes (.error f) fun _ => refuse (.fault f) where
  gone _ := rfl
  comes _ _ _ _ := rfl
  keeps _ _ _ _ h := by cases h

theorem answered (a : Answer) : Realizes (.ok (.answered a)) fun _ => answer a where
  gone _ := rfl
  comes _ _ _ _ := rfl
  keeps t u b ht h := by
    cases h
    exact ht

variable [Row α] [Keyed α] [Placed α]

theorem checked {x : Except Fault β} {plan : β → Plan (List α)}
    {work : β → (Nat → Bool) → Work Answer} (h : ∀ b, Realizes (.ok (plan b).onTable) (work b)) :
    Realizes ((x.map plan).map Plan.onTable)
      fun prepared => Work.checked x fun b => work b prepared := by
  cases x with
  | error f => exact error f
  | ok b => exact h b

/-- One statement that comes to what is planned on the rows of its table. -/
theorem single {q : Query α Answer} {body : List α → Except Fault (List α × Answer)}
    (runs : ∀ rows, KeysDiffer rows →
      q.run rows = allOrNothing rows ((Plan.transaction q.integers body).effect rows))
    (keeps : ∀ rows rows' a, KeysDiffer rows → body rows = .ok (rows', a) → KeysDiffer rows') :
    Realizes (.ok (.onTable (.transaction q.integers body)))
      fun prepared => single α (prepared 0) q where
  gone prepared :=
    (bind_of_error (transaction_of_error rfl)).trans (Plan.outcome_transaction_none _ _ _).symm
  comes prepared t ht stored := by
    have ran := runs (Placed.rows t) (Placed.part ht)
    cases he : (Plan.transaction q.integers body).effect (Placed.rows t) with
    | error f =>
      have effect := Plan.effectOf_onTable he
      rw [he] at ran
      rw [Plan.outcome_of_error effect]
      exact bind_of_error (transaction_of_error (statement_of_run ran))
    | ok r =>
      have effect := Plan.effectOf_onTable he
      rw [he] at ran
      rw [Plan.outcome_of_ok effect]
      refine (bind_of_ok (transaction_of_ok (statement_of_run ran))).trans ?_
      rw [handBack_of_stored (stored _ _ effect)]
      rfl
  keeps t u a ht he := by
    change Plan.effectOf ((Except.ok (.transaction q.integers body)).map
      (Plan.on Placed.rows Placed.withRows)) t = .ok (u, a) at he
    obtain ⟨rows, hrows, rfl⟩ := Plan.exists_of_effectOf_on he Placed.withRows_rows
    obtain ⟨-, hbody⟩ := Plan.effect_transaction_eq_ok_iff.mp hrows
    exact Placed.whole ht (keeps _ _ _ (Placed.part ht) hbody)

section sound

variable {integers : List Int} {p : α → Bool} {f : α → α} {new : α} {expected : RowCount}
  {answer : List α → Answer}

/-- A statement that needs no free key, with the rows that are expected. -/
theorem query {q : Query α Answer} {write : List α → List α × Answer}
    (keeps : ∀ rows, KeysDiffer rows → KeysDiffer (q.write.after rows))
    (counted : ∀ rows, KeysDiffer rows →
      q.expected.allows (q.write.returned rows).length = true)
    (same : ∀ rows, (q.write.after rows, q.answer (q.write.returned rows)) = write rows) :
    Realizes (.ok (.onTable (.update q.integers write)))
      fun prepared => Work.single α (prepared 0) q := by
  refine Realizes.single ?_ ?_
  · intro rows h
    rw [Query.run_of_sound (keeps rows) (counted rows h), same]
    rfl
  · intro rows rows' a h hw
    rw [← same] at hw
    cases hw
    exact keeps rows h

theorem select {read : List α → Answer}
    (counted : ∀ rows, KeysDiffer rows → expected.allows (rows.filter p).length = true)
    (same : ∀ rows, answer (rows.filter p) = read rows) :
    Realizes (.ok (.onTable (.update integers fun rows => (rows, read rows))))
      fun prepared =>
        Work.single α (prepared 0) ⟨integers, .select p, expected, .integrity, answer⟩ :=
  query (q := ⟨integers, .select p, expected, .integrity, answer⟩) (fun _ h => h) counted
    fun rows => congrArg (rows, ·) (same rows)

theorem remove {read : List α → Answer} (same : ∀ rows, answer (rows.filter p) = read rows) :
    Realizes (.ok (.onTable (.update integers fun rows => (Rows.remove p rows, read rows))))
      fun prepared => Work.single α (prepared 0) ⟨integers, .remove p, .any, .integrity, answer⟩ :=
  query (q := ⟨integers, .remove p, .any, .integrity, answer⟩) (fun _ h => h.remove)
    (fun _ _ => rfl) fun rows => congrArg (Rows.remove p rows, ·) (same rows)

theorem change {read : List α → Answer} (hf : ∀ key ∈ keysOf α, ∀ r, key (f r) = key r)
    (counted : ∀ rows, KeysDiffer rows →
      expected.allows ((rows.filter p).map f).length = true)
    (same : ∀ rows, answer ((rows.filter p).map f) = read rows) :
    Realizes (.ok (.onTable (.update integers fun rows => (Rows.change p f rows, read rows))))
      fun prepared =>
        Work.single α (prepared 0) ⟨integers, .change p f, expected, .integrity, answer⟩ :=
  query (q := ⟨integers, .change p f, expected, .integrity, answer⟩) (fun _ h => h.change hf)
    counted fun rows => congrArg (Rows.change p f rows, ·) (same rows)

/-- An upsert by the only key of its table. -/
theorem upsert {read : List α → Answer} (only : (Keyed.unique : List (α → List String)) = [])
    (hf : ∀ r, Row.key (f r) = Row.key r) (hp : Write.sameKey new = p)
    (counted : expected.allows 1 = true)
    (same : ∀ rows, answer ((Write.upsert f new).returned rows) = read rows) :
    Realizes (.ok (.onTable (.update integers fun rows => (Rows.upsert p f new rows, read rows))))
      fun prepared =>
        Work.single α (prepared 0) ⟨integers, .upsert f new, expected, .integrity, answer⟩ := by
  subst hp
  refine query (q := ⟨integers, .upsert f new, expected, .integrity, answer⟩)
    (fun _ h => h.upsert only hf) ?_
    fun rows => congrArg (Rows.upsert _ f new rows, ·) (same rows)
  intro rows h
  show expected.allows ((Write.upsert f new).returned rows).length = true
  rw [h.length_upsert, counted]

/-- An insert that is left out where the only key of its table is in use. -/
theorem insertUnless {write : List α → List α × Answer}
    (only : (Keyed.unique : List (α → List String)) = [])
    (counted : ∀ n ≤ 1, expected.allows n = true)
    (same : ∀ rows, ((Write.insertUnless new).after rows,
      answer ((Write.insertUnless new).returned rows)) = write rows) :
    Realizes (.ok (.onTable (.update integers write)))
      fun prepared =>
        Work.single α (prepared 0) ⟨integers, .insertUnless new, expected, .integrity, answer⟩ :=
  query (q := ⟨integers, .insertUnless new, expected, .integrity, answer⟩)
    (fun _ h => h.insertUnless only)
    (fun rows _ => counted _ (Write.length_insertUnless new rows)) same

end sound

/-- An insert that meets the keys it is asked to meet. -/
theorem insert {integers : List Int} {new : α} {f : Fault} {expected : RowCount}
    {answer : List α → Answer} {taken : α → Bool} {b : Answer}
    (htaken : ∀ r, taken r = true ↔ ∃ key ∈ keysOf α, key r = key new)
    (counted : expected.allows 1 = true) (hb : answer [new] = b) :
    Realizes
      (.ok (.onTable (.transaction integers fun rows =>
        if rows.any taken then .error f else .ok (rows ++ [new], b))))
      fun prepared =>
        Work.single α (prepared 0) ⟨integers, .insert new, expected, .fault f, answer⟩ := by
  have free_iff : ∀ rows : List α, KeysDiffer rows →
      (KeysDiffer (rows ++ [new]) ↔ ¬ rows.any taken = true) := by
    intro rows h
    rw [h.append_iff, List.any_eq_true]
    constructor
    · rintro free ⟨r, hr, htake⟩
      obtain ⟨key, hkey, same⟩ := (htaken r).mp htake
      exact free r hr key hkey same
    · intro free r hr key hkey same
      exact free ⟨r, hr, (htaken r).mpr ⟨key, hkey, same⟩⟩
  refine single (q := ⟨integers, .insert new, expected, .fault f, answer⟩) ?_ ?_
  · intro rows h
    unfold Query.run
    simp only [Write.BreaksKeys, Write.after, Write.returned, Plan.effect, free_iff rows h, h]
    cases integers.all fitsWord with
    | false => rfl
    | true =>
      by_cases hany : rows.any taken = true
      · simp [hany, allOrNothing]
      · simp [hany, counted, hb, allOrNothing]
  · intro rows rows' a h hinsert
    obtain ⟨free, rfl, -⟩ := Rows.eq_of_insert_ok hinsert
    rw [free_iff rows h, List.any_eq_true]
    rintro ⟨r, hr, htake⟩
    rw [free r hr] at htake
    cases htake

end Realizes

end AccountPortal

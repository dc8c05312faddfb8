import AccountPortal.Proofs.Query.Keys

/-!
# Statements and what is expected of them

A `Query` is one statement on one table as the database takes it: what it writes, and what the
caller expects of the rows that it gives back. Beside the faults of the portal two things may go
wrong: two rows would get one key, or another number of rows comes back than is expected. The first
is found before anything is written, the second after it. Where neither goes wrong the statement
writes all it has to write, or nothing:

    q.run rows = allOrNothing rows (if q.integers.all fitsWord then .ok (..) else ..) (run_of_sound)
-/

namespace AccountPortal

/-- How work on the database fails. -/
inductive Failure where
  | fault (f : Fault)
  /-- Two rows would get one key, and the portal has no fault for it. -/
  | integrity
  /-- So many rows came back, and other numbers were expected. -/
  | rowCount (n : Nat)
  /-- A record that cannot be read from what the database hands back. -/
  | reading (f : ReadFault)

/-- All that is to be written, with the answer, or nothing and the fault. -/
def allOrNothing {σ β : Type} (s : σ) : Except Fault (σ × β) → σ × Except Failure β
  | .ok (s', b) => (s', .ok b)
  | .error f => (s, .error (.fault f))

/-! ## Writes -/

inductive Write (α : Type) where
  | insert (new : α)
  /-- Inserts a row, or changes the one that has its primary key. -/
  | upsert (f : α → α) (new : α)
  /-- Inserts a row unless one has its primary key. -/
  | insertUnless (new : α)
  | change (p : α → Bool) (f : α → α)
  | remove (p : α → Bool)
  | select (p : α → Bool)

namespace Write

variable {α : Type} [Row α]

def sameKey (new r : α) : Bool := Row.key r == Row.key new

def after (rows : List α) : Write α → List α
  | .insert new => rows ++ [new]
  | .upsert f new => Rows.upsert (sameKey new) f new rows
  | .insertUnless new => if rows.any (sameKey new) then rows else rows ++ [new]
  | .change p f => Rows.change p f rows
  | .remove p => Rows.remove p rows
  | .select _ => rows

/-- The rows that come back: those that were written, as they are then, removed or selected. -/
def returned (rows : List α) : Write α → List α
  | .insert new => [new]
  | .upsert f new => if rows.any (sameKey new) then (rows.filter (sameKey new)).map f else [new]
  | .insertUnless new => if rows.any (sameKey new) then [] else [new]
  | .change p f => (rows.filter p).map f
  | .remove p => rows.filter p
  | .select p => rows.filter p

/-- The keys differ now and would not any more. -/
def BreaksKeys [Keyed α] (rows : List α) (w : Write α) : Prop :=
  KeysDiffer rows ∧ ¬ KeysDiffer (w.after rows)

instance [Keyed α] (rows : List α) (w : Write α) : Decidable (w.BreaksKeys rows) :=
  inferInstanceAs (Decidable (KeysDiffer rows ∧ ¬ KeysDiffer (w.after rows)))

end Write

/-! ## Tables with one key -/

section primary

variable {α : Type} [Row α] [Keyed α] {rows : List α} {f : α → α} {new : α}

/-- A row is added when its primary key is free and there are no other keys. -/
theorem KeysDiffer.append_of_free (h : KeysDiffer rows)
    (only : (Keyed.unique : List (α → List String)) = [])
    (free : ¬ rows.any (Write.sameKey new) = true) : KeysDiffer (rows ++ [new]) := by
  rw [h.append_iff]
  intro r hr key hkey same
  rw [keysOf, only, List.mem_singleton] at hkey
  rw [hkey] at same
  exact free (List.any_eq_true.mpr ⟨r, hr, beq_iff_eq.mpr same⟩)

theorem KeysDiffer.upsert (h : KeysDiffer rows)
    (only : (Keyed.unique : List (α → List String)) = [])
    (hf : ∀ r, Row.key (f r) = Row.key r) :
    KeysDiffer (Rows.upsert (Write.sameKey new) f new rows) := by
  unfold Rows.upsert
  split
  · refine h.change ?_
    intro key hkey
    rw [keysOf, only, List.mem_singleton] at hkey
    rw [hkey]
    exact hf
  · next free => exact h.append_of_free only free

theorem KeysDiffer.insertUnless (h : KeysDiffer rows)
    (only : (Keyed.unique : List (α → List String)) = []) :
    KeysDiffer ((Write.insertUnless new).after rows) := by
  rw [Write.after]
  split
  · exact h
  · next free => exact h.append_of_free only free

/-- One row comes of an upsert: the one with the primary key of the new row, or the new row. -/
theorem KeysDiffer.length_upsert (h : KeysDiffer rows) :
    ((Write.upsert f new).returned rows).length = 1 := by
  rw [Write.returned]
  by_cases hany : rows.any (Write.sameKey new) = true
  · rw [if_pos hany, List.length_map]
    have atMost : (rows.filter (Write.sameKey new)).length ≤ 1 :=
      h.length_filter_le Row.key List.mem_cons_self (Row.key new) fun r hr => eq_of_beq hr
    obtain ⟨r, hr, same⟩ := List.any_eq_true.mp hany
    have atLeast := List.length_pos_of_mem (List.mem_filter.mpr ⟨hr, same⟩)
    omega
  · rw [if_neg hany]
    rfl

end primary

theorem Write.length_insertUnless {α : Type} [Row α] (new : α) (rows : List α) :
    ((Write.insertUnless new).returned rows).length ≤ 1 := by
  rw [Write.returned]
  split <;> simp

/-! ## Queries -/

inductive RowCount where
  | any
  | atMostOne
  | one

def RowCount.allows : RowCount → Nat → Bool
  | .any, _ => true
  | .atMostOne, n => n ≤ 1
  | .one, n => n == 1

/-- A statement that answers with `β`: the integers it binds, the rows that are expected back, and
what comes of a row whose key is in use. -/
structure Query (α β : Type) where
  integers : List Int := []
  write : Write α
  expected : RowCount := .any
  collision : Failure := .integrity
  answer : List α → β

namespace Query

variable {α β : Type} [Row α] [Keyed α] {q : Query α β} {rows : List α}

/-- The rows after a statement, with its answer. The rows that come back are counted when all is
written. -/
def run (q : Query α β) (rows : List α) : List α × Except Failure β :=
  if !q.integers.all fitsWord then (rows, .error (.fault .integerOutOfRange))
  else if q.write.BreaksKeys rows then (rows, .error q.collision)
  else if !q.expected.allows (q.write.returned rows).length then
    (q.write.after rows, .error (.rowCount (q.write.returned rows).length))
  else (q.write.after rows, .ok (q.answer (q.write.returned rows)))

/-- What a statement comes to that no key and no number of rows stops. -/
theorem run_of_sound (keeps : KeysDiffer rows → KeysDiffer (q.write.after rows))
    (counted : q.expected.allows (q.write.returned rows).length = true) :
    q.run rows = allOrNothing rows
      (if q.integers.all fitsWord then .ok (q.write.after rows, q.answer (q.write.returned rows))
      else .error .integerOutOfRange) := by
  have kept : ¬ q.write.BreaksKeys rows := fun breaks => breaks.2 (keeps breaks.1)
  unfold run
  rw [if_neg kept, counted]
  cases q.integers.all fitsWord <;> rfl

/-- A statement that is stopped by its integers, whatever it writes. -/
theorem run_of_unfit (unfit : q.integers.all fitsWord = false) (rows : List α) :
    q.run rows = (rows, .error (.fault .integerOutOfRange)) := by
  unfold run
  rw [unfit]
  rfl

end Query

/-! ## Answers -/

namespace Answer

variable {α : Type}

def first (f : α → Record) (rows : List α) : Answer := .record (rows.head?.map f)

def anyRow (rows : List α) : Answer := .flag !rows.isEmpty

def rowCount (rows : List α) : Answer := .count rows.length

theorem first_filter (f : α → Record) (p : α → Bool) (rows : List α) :
    first f (rows.filter p) = .record ((rows.find? p).map f) := by
  rw [first, List.head?_filter]

theorem anyRow_filter (p : α → Bool) (rows : List α) :
    anyRow (rows.filter p) = .flag (rows.any p) := by
  unfold anyRow
  congr 1
  rw [Bool.eq_iff_iff, Bool.not_eq_true', List.isEmpty_eq_false_iff, ne_eq, List.filter_eq_nil_iff]
  simp

theorem anyRow_change (p : α → Bool) (f : α → α) (rows : List α) :
    anyRow ((rows.filter p).map f) = .flag (rows.any p) := by
  rw [← anyRow_filter, anyRow, anyRow, List.isEmpty_map]

theorem rowCount_filter (p : α → Bool) (rows : List α) :
    rowCount (rows.filter p) = .count (rows.countP p) := by
  rw [rowCount, List.countP_eq_length_filter]

/-- The first row that comes back of a change is the first that is then found. -/
theorem first_change (g : α → Record) {p : α → Bool} {f : α → α}
    (hf : ∀ r, p r = true → p (f r) = true) (rows : List α) :
    first g ((rows.filter p).map f) = .record (((Rows.change p f rows).find? p).map g) := by
  rw [Rows.find?_change hf, first, List.head?_map, List.head?_filter]

theorem first_upsert [Row α] (g : α → Record) {p : α → Bool} {f : α → α} {new : α}
    (hp : Write.sameKey new = p) (hf : ∀ r, p r = true → p (f r) = true) (rows : List α) :
    first g ((Write.upsert f new).returned rows) =
      .record (((Rows.upsert p f new rows).find? p).map g) := by
  have hnew : p new = true := by rw [← hp]; exact beq_self_eq_true _
  rw [Write.returned, hp]
  unfold Rows.upsert
  by_cases hany : rows.any p = true
  · rw [if_pos hany, if_pos hany, first_change g hf]
  · rw [if_neg hany, if_neg hany]
    rw [List.any_eq_true] at hany
    have absent : rows.find? p = none :=
      List.find?_eq_none.mpr fun r hr hpr => hany ⟨r, hr, hpr⟩
    rw [List.find?_append, absent, List.find?_cons_of_pos hnew]
    rfl

end Answer

end AccountPortal

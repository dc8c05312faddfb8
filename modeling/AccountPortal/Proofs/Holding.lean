import AccountPortal.Proofs.History
import AccountPortal.Proofs.Since

/-!
# What a history leaves of a table

A `Holding` is a part of the tables that events start and end things in: what an event starts is
there after it, and so is all that was there and that it does not end. New tables hold nothing, and
dropping the schema ends everything. What is held after a course is then what the course left:

    x ∈ H.heldIn tables ↔ Since (H.starts x) (H.ends x) h                         (mem_heldIn_iff)
-/

namespace AccountPortal

/-- Things of the tables, with an invariant of theirs that their events rely on. -/
structure Holding (settings : Settings) (α : Type) where
  held : Tables → List α
  starts : α → Event → Prop
  ends : α → Event → Prop
  Proper : List α → Prop
  proper_nil : Proper []
  held_empty : held .empty = []
  proper_of_moves : ∀ {e : Event} {t u : Tables},
    e.Moves settings (some t) (some u) → Proper (held t) → Proper (held u)
  mem_of_moves : ∀ {e : Event} {t u : Tables},
    e.Moves settings (some t) (some u) → Proper (held t) →
      ∀ x, x ∈ held u ↔ starts x e ∨ (x ∈ held t ∧ ¬ ends x e)
  ends_dropSchema : ∀ x {e : Event}, e.deed = .dropSchema → ends x e
  /-- Only calls that are answered start something, and only those that need tables for it. -/
  call_of_starts : ∀ {x} {e : Event}, starts x e → ∃ c a, e.deed = .call c (.ok a) ∧
    ∀ provider subject, c ≠ .identityLinks (.find provider subject)

namespace Holding

variable {settings : Settings} {α : Type} (H : Holding settings α) {h : List Event}
  {tables before after : Option Tables}

def heldIn : Option Tables → List α
  | some t => H.held t
  | none => []

theorem not_starts_dropSchema {x : α} {e : Event} (h : e.deed = .dropSchema) : ¬ H.starts x e := by
  intro starts
  obtain ⟨c, a, hdeed, -⟩ := H.call_of_starts starts
  rw [h] at hdeed
  cases hdeed

/-- Without tables nothing is started. -/
theorem not_starts_of_none {x : α} {e : Event} (moves : e.Moves settings none after) :
    ¬ H.starts x e := by
  intro starts
  obtain ⟨c, a, hdeed, hother⟩ := H.call_of_starts starts
  obtain ⟨now, deed⟩ := e
  cases hdeed
  obtain ⟨provider, subject, hfind⟩ := Call.eq_find_of_answered (Event.moves_none moves).2
  exact hother provider subject hfind

theorem heldIn_of_none {e : Event} (moves : e.Moves settings none after) : H.heldIn after = [] := by
  cases after with
  | none => rfl
  | some u =>
    rw [Event.eq_empty_of_moves moves]
    exact H.held_empty

theorem dropSchema_of_moves {e : Event} {t : Tables} (moves : e.Moves settings (some t) none) :
    e.deed = .dropSchema := by
  apply Classical.byContradiction
  intro kept
  obtain ⟨u, hu⟩ := Event.exists_of_moves moves kept
  cases hu

theorem proper_heldIn (course : Course settings (some .empty) h tables) :
    H.Proper (H.heldIn tables) := by
  cases tables with
  | none => exact H.proper_nil
  | some t =>
    have hnew : H.Proper (H.held .empty) := by
      rw [H.held_empty]
      exact H.proper_nil
    exact course.invariant (P := fun t => H.Proper (H.held t)) hnew
      (fun _ _ _ => H.proper_of_moves) t rfl

/-- One more event adds what it starts and takes away what it ends. -/
theorem mem_heldIn_of_moves {e : Event} (proper : H.Proper (H.heldIn before))
    (moves : e.Moves settings before after) (x : α) :
    x ∈ H.heldIn after ↔ H.starts x e ∨ (x ∈ H.heldIn before ∧ ¬ H.ends x e) := by
  cases before with
  | none =>
    rw [H.heldIn_of_none moves]
    simp [heldIn, H.not_starts_of_none moves]
  | some t =>
    cases after with
    | some u => exact H.mem_of_moves moves proper x
    | none =>
      have drop := dropSchema_of_moves moves
      simp [heldIn, H.not_starts_dropSchema drop, H.ends_dropSchema x drop]

theorem mem_heldIn_iff (course : Course settings (some .empty) h tables) (x : α) :
    x ∈ H.heldIn tables ↔ Since (H.starts x) (H.ends x) h := by
  induction course with
  | start =>
    simp [heldIn, H.held_empty, not_since_nil]
  | step course moves ih =>
    rw [since_concat, ← ih]
    exact H.mem_heldIn_of_moves (H.proper_heldIn course) moves x

end Holding

end AccountPortal

import AccountPortal.Proofs.Rows
import AccountPortal.Proofs.Twin.Plans

/-!
# Tables without some of their dead rows

`Sheds P rows rows'`: the second table is the first less some rows that pass `P`. A request that
never looks at such rows meets the same fault on both, or is answered alike and leaves tables that
are related so again:

    Sheds P rows rows' → Plan.Agrees (Sheds P) A (effect on rows) (effect on rows')

Creates look at keys, look-ups and consumers at rows that live; what is removed is removed from
both. Only the counts of what is removed tell the two apart.
-/

namespace AccountPortal

inductive Sheds {α : Type} (P : α → Prop) : List α → List α → Prop where
  | nil : Sheds P [] []
  | keep (r : α) {rows rows' : List α} (h : Sheds P rows rows') : Sheds P (r :: rows) (r :: rows')
  | shed {r : α} {rows rows' : List α} (hr : P r) (h : Sheds P rows rows') :
      Sheds P (r :: rows) rows'

namespace Sheds

variable {α : Type} {P : α → Prop} {rows rows' : List α} {q : α → Bool}

theorem refl (rows : List α) : Sheds P rows rows := by
  induction rows with
  | nil => exact .nil
  | cons r rest ih => exact .keep r ih

theorem of_remove (h : ∀ r ∈ rows, q r = true → P r) : Sheds P rows (Rows.remove q rows) := by
  induction rows with
  | nil => exact .nil
  | cons r rest ih =>
    have others := ih fun s hs => h s (List.mem_cons_of_mem r hs)
    unfold Rows.remove at others ⊢
    cases hr : q r with
    | true =>
      rw [List.filter_cons_of_neg (by simp [hr])]
      exact .shed (h r List.mem_cons_self hr) others
    | false =>
      rw [List.filter_cons_of_pos (by simp [hr])]
      exact .keep r others

theorem append (h : Sheds P rows rows') (l : List α) : Sheds P (rows ++ l) (rows' ++ l) := by
  induction h with
  | nil => exact refl l
  | keep r _ ih => exact .keep r ih
  | shed hr _ ih => exact .shed hr ih

theorem remove (h : Sheds P rows rows') (q : α → Bool) :
    Sheds P (Rows.remove q rows) (Rows.remove q rows') := by
  unfold Rows.remove
  induction h with
  | nil => exact .nil
  | keep r _ ih =>
    rw [List.filter_cons, List.filter_cons]
    split
    · exact .keep r ih
    · exact ih
  | shed hr _ ih =>
    rw [List.filter_cons]
    split
    · exact .shed hr ih
    · exact ih

/-! ## Tests that no row passes that is shed -/

section unseen

variable (h : Sheds P rows rows') (unseen : ∀ r, P r → q r = false)

include h unseen

theorem any_eq : rows'.any q = rows.any q := by
  induction h with
  | nil => rfl
  | keep r _ ih => rw [List.any_cons, List.any_cons, ih]
  | shed hr _ ih => rw [List.any_cons, unseen _ hr, Bool.false_or, ih]

theorem find?_eq : rows'.find? q = rows.find? q := by
  induction h with
  | nil => rfl
  | keep r _ ih => rw [List.find?_cons, List.find?_cons, ih]
  | shed hr _ ih => rw [List.find?_cons, unseen _ hr, ih]

theorem change (f : α → α) : Sheds P (Rows.change q f rows) (Rows.change q f rows') := by
  unfold Rows.change
  induction h with
  | nil => exact .nil
  | keep r _ ih =>
    rw [List.map_cons, List.map_cons]
    exact .keep _ ih
  | shed hr _ ih =>
    rw [List.map_cons, unseen _ hr]
    exact .shed hr ih

end unseen

/-- Who asks for a row that lives does not see the dead. -/
theorem unseen_of_dead {live : α → Bool} (dead : ∀ r, P r → live r = false) (key : α → Bool) :
    ∀ r, P r → (key r && live r) = false := by
  intro r hr
  rw [dead r hr, Bool.and_false]

end Sheds

/-! ## Plans -/

/-- A create under keys that no shed row has. -/
theorem Plan.agrees_insert {α : Type} {P : α → Prop} {A : Answer → Answer → Prop}
    {rows rows' : List α} {taken : α → Bool} {new : α} {f : Fault} {a : Answer}
    (h : Sheds P rows rows') (unseen : ∀ r, P r → taken r = false) (answers : A a a) :
    Agrees (Sheds P) A (if rows.any taken then .error f else .ok (rows ++ [new], a))
      (if rows'.any taken then .error f else .ok (rows' ++ [new], a)) := by
  rw [h.any_eq unseen]
  split
  · exact .error f
  · exact .ok (h.append [new]) answers

end AccountPortal

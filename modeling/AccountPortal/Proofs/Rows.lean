import AccountPortal.Store.Plan
import Mathlib.Data.List.Find
import Mathlib.Data.List.Nodup

/-!
# Rows under their operations

What `Rows.change`, `Rows.remove` and `Rows.upsert` leave of a table, and that none of them does
more when it is repeated:

    (change p f rows).filter q = change p f (rows.filter q)      (filter_change, `f` keeping `q`)
    change p f (change p f rows) = change p f rows               (change_change)
    upsert p f new (upsert p f new rows) = upsert p f new rows   (upsert_upsert)
-/

namespace AccountPortal.Rows

variable {α : Type} {p q : α → Bool} {f : α → α} {new : α} {rows : List α}

/-! ## Membership -/

theorem mem_change {r : α} : r ∈ change p f rows ↔ ∃ s ∈ rows, (if p s then f s else s) = r :=
  List.mem_map

theorem mem_remove {r : α} : r ∈ remove p rows ↔ r ∈ rows ∧ p r = false := by
  simp [remove]

theorem change_eq_self (h : ∀ r ∈ rows, p r = false) : change p f rows = rows := by
  unfold change
  have same : ∀ r ∈ rows, (if p r then f r else r) = r := by
    intro r hr
    simp [h r hr]
  rw [List.map_congr_left same, List.map_id']

theorem remove_eq_self (h : ∀ r ∈ rows, p r = false) : remove p rows = rows := by
  unfold remove
  rw [List.filter_eq_self]
  intro r hr
  simp [h r hr]

/-- A property of every row survives a change that keeps it of the rows that it changes. -/
theorem forall_change_of_pass {P : α → Prop} (hf : ∀ r, p r = true → P r → P (f r))
    (h : ∀ r ∈ rows, P r) : ∀ r ∈ change p f rows, P r := by
  intro r hr
  obtain ⟨s, hs, rfl⟩ := mem_change.mp hr
  split
  · next pass => exact hf s pass (h s hs)
  · exact h s hs

theorem forall_change {P : α → Prop} (hf : ∀ r, P r → P (f r)) (h : ∀ r ∈ rows, P r) :
    ∀ r ∈ change p f rows, P r :=
  forall_change_of_pass (fun r _ => hf r) h

theorem forall_upsert {P : α → Prop} (hf : ∀ r, P r → P (f r)) (hnew : P new)
    (h : ∀ r ∈ rows, P r) : ∀ r ∈ upsert p f new rows, P r := by
  intro r hr
  unfold upsert at hr
  split at hr
  · exact forall_change hf h r hr
  · rcases List.mem_append.mp hr with hr | hr
    · exact h r hr
    · rw [List.mem_singleton] at hr
      rw [hr]
      exact hnew

/-- Only a row whose keys are free is added. -/
theorem eq_of_insert_ok {taken : α → Bool} {rows' : List α} {f : Fault} {a b : Answer}
    (h : (if rows.any taken then Except.error f else .ok (rows ++ [new], b)) = .ok (rows', a)) :
    (∀ r ∈ rows, taken r = false) ∧ rows ++ [new] = rows' ∧ b = a := by
  split at h
  · cases h
  · next free =>
    cases h
    refine ⟨?_, rfl, rfl⟩
    intro r hr
    rw [Bool.eq_false_iff]
    exact fun hr' => free (List.any_eq_true.mpr ⟨r, hr, hr'⟩)

/-- What a change leaves of each row it leaves of the table. -/
theorem map_change {β : Type} {g : α → β} (h : ∀ r, g (f r) = g r) :
    (change p f rows).map g = rows.map g := by
  unfold change
  rw [List.map_map]
  apply List.map_congr_left
  intro r _
  show g (if p r then f r else r) = g r
  split
  · exact h r
  · rfl

/-- What is found by a test that at most one row passes is that row. -/
theorem find?_eq_some_iff_of_unique {r : α}
    (unique : ∀ s ∈ rows, ∀ r ∈ rows, p s = true → p r = true → s = r) :
    rows.find? p = some r ↔ r ∈ rows ∧ p r = true := by
  constructor
  · exact fun found => ⟨List.mem_of_find?_eq_some found, List.find?_some found⟩
  · rintro ⟨hr, hp⟩
    cases found : rows.find? p with
    | none => exact absurd hp (List.find?_eq_none.mp found r hr)
    | some s => rw [unique s (List.mem_of_find?_eq_some found) r hr (List.find?_some found) hp]

theorem find?_key_eq_some_iff {κ : Type} [BEq κ] [LawfulBEq κ] {key : α → κ}
    (distinct : (rows.map key).Nodup) {k : κ} {r : α} :
    rows.find? (fun r => key r == k) = some r ↔ r ∈ rows ∧ key r = k := by
  rw [find?_eq_some_iff_of_unique, beq_iff_eq]
  intro s hs r hr hks hkr
  exact List.inj_on_of_nodup_map distinct hs hr ((eq_of_beq hks).trans (eq_of_beq hkr).symm)

/-- Who asks for the key of a row finds the row, if it passes. -/
theorem find?_own_key {κ : Type} [BEq κ] [LawfulBEq κ] {key : α → κ} {r : α}
    (distinct : (rows.map key).Nodup) (hr : r ∈ rows) :
    rows.find? (fun s => key s == key r && p s) = if p r then some r else none := by
  have same : ∀ s ∈ rows, (key s == key r && p s) = true → s = r ∧ p s = true := by
    intro s hs found
    obtain ⟨hkey, pass⟩ := Bool.and_eq_true_iff.mp found
    exact ⟨List.inj_on_of_nodup_map distinct hs hr (eq_of_beq hkey), pass⟩
  split
  · next pass =>
    have found : (key r == key r && p r) = true := by rw [beq_self_eq_true, pass, Bool.true_and]
    rw [find?_eq_some_iff_of_unique]
    · exact ⟨hr, found⟩
    · exact fun s hs t ht hs' ht' => (same s hs hs').1.trans (same t ht ht').1.symm
  · next fail =>
    rw [List.find?_eq_none]
    intro s hs found
    obtain ⟨rfl, pass⟩ := same s hs found
    exact fail pass

/-- A row is added under a free key. -/
theorem nodup_map_append {κ : Type} {key : α → κ} (distinct : (rows.map key).Nodup)
    (free : ∀ r ∈ rows, key r ≠ key new) : ((rows ++ [new]).map key).Nodup := by
  rw [List.map_append, List.nodup_append]
  refine ⟨distinct, List.nodup_singleton _, ?_⟩
  intro a ha b hb
  obtain ⟨r, hr, rfl⟩ := List.mem_map.mp ha
  rw [List.map_singleton, List.mem_singleton] at hb
  rw [hb]
  exact free r hr

theorem nodup_map_remove {κ : Type} {key : α → κ} (distinct : (rows.map key).Nodup) :
    ((remove p rows).map key).Nodup :=
  List.Nodup.sublist (List.filter_sublist.map key) distinct

/-! ## The rows of one kind -/

/-- A change that leaves a row its kind changes the rows of that kind among themselves. -/
theorem filter_change (hf : ∀ r, q (f r) = q r) :
    (change p f rows).filter q = change p f (rows.filter q) := by
  induction rows with
  | nil => rfl
  | cons r rest ih =>
    unfold change at ih ⊢
    rw [List.map_cons]
    have hq : q (if p r then f r else r) = q r := by
      split
      · exact hf r
      · rfl
    cases hr : q r with
    | true =>
      rw [List.filter_cons_of_pos (by rw [hq, hr]), List.filter_cons_of_pos hr, ih]
      rfl
    | false =>
      rw [List.filter_cons_of_neg (by simp [hq, hr]), List.filter_cons_of_neg (by simp [hr]), ih]

/-- A change that takes its rows out of a kind removes them from among those of that kind. -/
theorem filter_change_away (hf : ∀ r, q (f r) = false) :
    (change p f rows).filter q = remove p (rows.filter q) := by
  induction rows with
  | nil => rfl
  | cons r rest ih =>
    unfold change at ih ⊢
    rw [List.map_cons]
    cases hp : p r with
    | true =>
      rw [if_pos rfl, List.filter_cons_of_neg (by simp [hf]), ih]
      cases hq : q r <;> simp [remove, hq, hp]
    | false =>
      rw [if_neg (by simp)]
      cases hq : q r <;> simp [remove, hq, hp] at ih ⊢ <;> exact ih

section key

variable {κ : Type} [BEq κ] (key : α → κ)

/-- A change of the rows under a key, among the rows under that key. -/
theorem filter_key_change (hf : ∀ r, key (f r) = key r) (k : κ) :
    (change (fun r => key r == k) f rows).filter (fun r => key r == k) =
      (rows.filter fun r => key r == k).map f := by
  rw [filter_change fun r => by rw [hf]]
  apply List.map_congr_left
  intro r hr
  rw [if_pos (List.mem_filter.mp hr).2]

variable [LawfulBEq κ]

theorem filter_key_change_of_ne (hf : ∀ r, key (f r) = key r) {k n : κ} (h : k ≠ n) :
    (change (fun r => key r == k) f rows).filter (fun r => key r == n) =
      rows.filter fun r => key r == n := by
  rw [filter_change fun r => by rw [hf]]
  apply change_eq_self
  intro r hr
  rw [eq_of_beq (List.mem_filter.mp hr).2, beq_eq_false_iff_ne]
  exact h.symm

/-- Whether a row passes, told by the rows that pass. -/
theorem any_eq_not_isEmpty_filter (p : α → Bool) (rows : List α) :
    rows.any p = !(rows.filter p).isEmpty := by
  rw [Bool.eq_iff_iff, Bool.not_eq_true', List.isEmpty_eq_false_iff, ne_eq, List.filter_eq_nil_iff]
  simp

/-- An upsert under a key, among the rows under that key. -/
theorem filter_key_upsert (hf : ∀ r, key (f r) = key r) {k : κ} (hnew : key new = k) :
    (upsert (fun r => key r == k) f new rows).filter (fun r => key r == k) =
      if (rows.filter fun r => key r == k) = [] then [new]
      else (rows.filter fun r => key r == k).map f := by
  unfold upsert
  by_cases known : rows.any (fun r => key r == k) = true
  · have found : (rows.filter fun r => key r == k) ≠ [] := by
      obtain ⟨r, hr, hkey⟩ := List.any_eq_true.mp known
      exact List.ne_nil_of_mem (List.mem_filter.mpr ⟨hr, hkey⟩)
    rw [if_pos known, if_neg found, filter_key_change key hf]
  · have absent : (rows.filter fun r => key r == k) = [] := by
      rw [List.filter_eq_nil_iff]
      exact fun r hr hkey => known (List.any_eq_true.mpr ⟨r, hr, hkey⟩)
    rw [if_neg known, if_pos absent, List.filter_append, absent, List.nil_append,
      List.filter_cons, if_pos (beq_iff_eq.mpr hnew), List.filter_nil]

theorem filter_key_upsert_of_ne (hf : ∀ r, key (f r) = key r) {k n : κ} (hnew : key new = k)
    (h : k ≠ n) :
    (upsert (fun r => key r == k) f new rows).filter (fun r => key r == n) =
      rows.filter fun r => key r == n := by
  unfold upsert
  split
  · exact filter_key_change_of_ne key hf h
  · have other : ¬ (key new == n) = true := by
      rw [hnew, beq_iff_eq]
      exact h
    rw [List.filter_append, List.filter_cons, if_neg other, List.filter_nil, List.append_nil]

/-- The rows under the key of a row are that row, once keys differ. -/
theorem filter_key_eq_singleton (distinct : (rows.map key).Nodup) {r : α} (hr : r ∈ rows) :
    (rows.filter fun s => key s == key r) = [r] := by
  induction rows with
  | nil => cases hr
  | cons s rest ih =>
    obtain ⟨fresh, others⟩ := List.nodup_cons.mp distinct
    rcases List.mem_cons.mp hr with rfl | hr
    · have none_left : (rest.filter fun s => key s == key r) = [] := by
        rw [List.filter_eq_nil_iff]
        intro x hx hkey
        exact fresh (List.mem_map.mpr ⟨x, hx, eq_of_beq hkey⟩)
      rw [List.filter_cons, if_pos (beq_self_eq_true (key r)), none_left]
    · have other : (key s == key r) = false := by
        rw [beq_eq_false_iff_ne]
        exact fun hkey => fresh (List.mem_map.mpr ⟨r, hr, hkey.symm⟩)
      rw [List.filter_cons_of_neg (by simp [other]), ih others hr]

end key

theorem filter_remove : (remove p rows).filter q = remove p (rows.filter q) := by
  unfold remove
  rw [List.filter_filter, List.filter_filter]
  apply List.filter_congr
  intro r _
  exact Bool.and_comm _ _

/-- Rows that are removed by what shows of them are removed from what shows. -/
theorem map_remove {β : Type} {g : α → β} {q : β → Bool} (h : ∀ r ∈ rows, q (g r) = p r) :
    (remove p rows).map g = remove q (rows.map g) := by
  unfold remove
  rw [List.filter_map]
  congr 1
  apply List.filter_congr
  intro r hr
  show (!p r) = !q (g r)
  rw [h r hr]

theorem find?_map {β : Type} {g : α → β} {q : β → Bool} (h : ∀ r ∈ rows, q (g r) = p r) :
    (rows.map g).find? q = (rows.find? p).map g := by
  have same : rows.find? (q ∘ g) = rows.find? p := List.find?_congr h
  rw [List.find?_map, same]

/-- The row that is found after a change is the one that was found before, changed. -/
theorem find?_change (hf : ∀ r, p r = true → p (f r) = true) :
    (change p f rows).find? p = (rows.find? p).map f := by
  induction rows with
  | nil => rfl
  | cons r rest ih =>
    unfold change at ih ⊢
    rw [List.map_cons]
    cases hp : p r with
    | true =>
      rw [if_pos rfl, List.find?_cons_of_pos (hf r hp), List.find?_cons_of_pos hp]
      rfl
    | false =>
      rw [if_neg (by simp), List.find?_cons_of_neg (by simp [hp]),
        List.find?_cons_of_neg (by simp [hp]), ih]

/-! ## Repetition -/

/-- Two changes of the same rows are one, when the first leaves them among those. -/
theorem change_change_of_pass {g : α → α} (hf : ∀ r, p (f r) = p r) :
    change p g (change p f rows) = change p (fun r => g (f r)) rows := by
  unfold change
  rw [List.map_map]
  apply List.map_congr_left
  intro r _
  show (if p (if p r then f r else r) then g (if p r then f r else r) else if p r then f r else r)
    = if p r then g (f r) else r
  cases hp : p r with
  | true => rw [if_pos rfl, if_pos rfl, hf, hp, if_pos rfl]
  | false => simp [hp]

theorem change_change (hf : ∀ r, p r = true → p (f r) = true → f (f r) = f r) :
    change p f (change p f rows) = change p f rows := by
  unfold change
  rw [List.map_map]
  apply List.map_congr_left
  intro r _
  show (if p (if p r then f r else r) then f (if p r then f r else r) else if p r then f r else r)
    = if p r then f r else r
  by_cases hp : p r = true
  · rw [if_pos hp]
    split
    · next hpf => exact hf r hp hpf
    · rfl
  · rw [if_neg hp, if_neg hp]

theorem remove_remove : remove p (remove p rows) = remove p rows := by
  unfold remove
  rw [List.filter_filter]
  simp

/-- The row that was added passes the test, and the change for rows that exist leaves it as it
is; so the second time changes it into itself. -/
theorem upsert_upsert (hp : p new = true) (hnew : f new = new)
    (hf : ∀ r, p r = true → p (f r) = true ∧ f (f r) = f r) :
    upsert p f new (upsert p f new rows) = upsert p f new rows := by
  unfold upsert
  by_cases hany : rows.any p = true
  · obtain ⟨r, hr, hpr⟩ := List.any_eq_true.mp hany
    have again : (change p f rows).any p = true := by
      refine List.any_eq_true.mpr ⟨f r, mem_change.mpr ⟨r, hr, if_pos hpr⟩, (hf r hpr).1⟩
    rw [if_pos hany, if_pos again]
    exact change_change fun s hs _ => (hf s hs).2
  · have again : (rows ++ [new]).any p = true := by simp [hp]
    have old : ∀ r ∈ rows, p r = false := by
      intro r hr
      by_cases hpr : p r = true
      · exact absurd (List.any_eq_true.mpr ⟨r, hr, hpr⟩) hany
      · simpa using hpr
    rw [if_neg hany, if_pos again]
    have split : change p f (rows ++ [new]) = change p f rows ++ [f new] := by
      simp [change, hp]
    rw [split, change_eq_self old, hnew]

end AccountPortal.Rows

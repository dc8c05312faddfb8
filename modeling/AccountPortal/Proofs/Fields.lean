import AccountPortal.Value

/-!
# Named entries

What is found in entries that are filtered, changed or put over others. Entries are put over others
in the order in which they stand, so it does not matter whether they are put together first:

    fields.merge (acc.merge later) = (fields.merge acc).merge later                  (merge_assoc)
    (fields.merge later).get? name = (later.get? name).or (fields.get? name)          (get?_merge)
-/

namespace AccountPortal.Fields

variable {α β : Type}

/-! ## Look-ups -/

/-- Entries that are dropped by their names are no loss to any other name. -/
theorem get?_filter (p : String → Bool) (fields : Fields α) (name : String) :
    Fields.get? (fields.filter fun e => p e.1) name =
      if p name then fields.get? name else none := by
  induction fields with
  | nil => simp
  | cons e rest ih =>
    obtain ⟨n, v⟩ := e
    rw [get?_cons]
    by_cases hn : n = name
    · subst hn
      cases hp : p n <;> simp [hp, get?_cons, ih]
    · cases hp : p n <;> simp [hp, get?_cons, hn, ih]

theorem get?_map (f : α → β) (fields : Fields α) (name : String) :
    Fields.get? (fields.map fun e => (e.1, f e.2)) name = (fields.get? name).map f := by
  induction fields with
  | nil => rfl
  | cons e rest ih =>
    obtain ⟨n, v⟩ := e
    rw [List.map_cons, get?_cons, get?_cons, ih]
    split <;> rfl

/-! ## Entries that are put -/

theorem put_of_not_mem {fields : Fields α} {name : String} (value : α)
    (h : name ∉ fields.map Prod.fst) : fields.put name value = fields ++ [(name, value)] := by
  induction fields with
  | nil => rfl
  | cons e rest ih =>
    obtain ⟨n, v⟩ := e
    rw [List.map_cons, List.mem_cons, not_or] at h
    have other : (n == name) = false := beq_eq_false_iff_ne.2 (Ne.symm h.1)
    simp only [put, other, Bool.false_eq_true, if_false, ih h.2, List.cons_append]

theorem put_cons_self (name : String) (v value : α) (rest : Fields α) :
    put ((name, v) :: rest) name value = (name, value) :: rest := by
  rw [put, beq_self_eq_true, if_pos rfl]

theorem put_cons_of_ne {n name : String} (h : n ≠ name) (v value : α) (rest : Fields α) :
    put ((n, v) :: rest) name value = (n, v) :: put rest name value := by
  rw [put, beq_eq_false_iff_ne.mpr h]
  rfl

/-- The later of two values under one name stays. -/
theorem put_put (fields : Fields α) (name : String) (v w : α) :
    (fields.put name v).put name w = fields.put name w := by
  induction fields with
  | nil => exact put_cons_self name v w []
  | cons e rest ih =>
    obtain ⟨n, u⟩ := e
    by_cases hn : n = name
    · subst hn
      rw [put_cons_self, put_cons_self, put_cons_self]
    · rw [put_cons_of_ne hn, put_cons_of_ne hn, put_cons_of_ne hn, ih]

/-- A name that stands there already does not move, so what is put beside it may come first. -/
theorem put_comm_of_mem {fields : Fields α} {name other : String} (there : name ∈ fields.map Prod.fst)
    (h : other ≠ name) (v w : α) :
    (fields.put other w).put name v = (fields.put name v).put other w := by
  induction fields with
  | nil => cases there
  | cons e rest ih =>
    obtain ⟨n, u⟩ := e
    by_cases hn : n = name
    · subst hn
      rw [put_cons_of_ne h.symm, put_cons_self, put_cons_self, put_cons_of_ne h.symm]
    · have later : name ∈ rest.map Prod.fst := by
        rw [List.map_cons, List.mem_cons] at there
        exact there.resolve_left (Ne.symm hn)
      by_cases ho : n = other
      · subst ho
        rw [put_cons_self, put_cons_of_ne hn, put_cons_of_ne hn, put_cons_self]
      · rw [put_cons_of_ne ho, put_cons_of_ne hn, put_cons_of_ne hn, put_cons_of_ne ho, ih later]

theorem mem_names_put {fields : Fields α} {n name : String} {value : α} :
    n ∈ (fields.put name value).map Prod.fst ↔ n ∈ fields.map Prod.fst ∨ n = name := by
  rw [names_put]
  split
  · next there => exact ⟨Or.inl, fun h => h.elim id fun same => same ▸ there⟩
  · rw [List.mem_append, List.mem_singleton]

theorem nodup_names_put {fields : Fields α} (distinct : (fields.map Prod.fst).Nodup) (name : String)
    (value : α) : ((fields.put name value).map Prod.fst).Nodup := by
  rw [names_put]
  split
  · exact distinct
  · next fresh =>
    refine List.nodup_append.mpr ⟨distinct, by simp, ?_⟩
    rintro n there _ last rfl
    exact fresh (List.mem_singleton.mp last ▸ there)

/-! ## Entries put over others -/

theorem merge_cons (fields : Fields α) (name : String) (value : α) (rest : Fields α) :
    fields.merge ((name, value) :: rest) = (fields.put name value).merge rest := rfl

theorem merge_append (fields first second : Fields α) :
    fields.merge (first ++ second) = (fields.merge first).merge second :=
  List.foldl_append

/-- A later field stands before an earlier one. -/
theorem get?_merge (fields : Fields α) {later : Fields α} (distinct : (later.map Prod.fst).Nodup)
    (name : String) : (fields.merge later).get? name = (later.get? name).or (fields.get? name) := by
  induction later generalizing fields with
  | nil => rfl
  | cons e rest ih =>
    obtain ⟨n, v⟩ := e
    rw [List.map_cons, List.nodup_cons] at distinct
    rw [merge_cons, ih _ distinct.2, get?_cons]
    -- what is put for the first field is not put again by the rest
    by_cases hn : n = name
    · subst hn
      rw [get?_eq_none_iff.mpr distinct.1, if_pos rfl, get?_put_self]
      rfl
    · rw [if_neg hn, get?_put_of_ne _ _ (Ne.symm hn)]

/-- Entries of different names are put one after another. -/
theorem merge_of_nodup (fields : Fields α) {later : Fields α}
    (distinct : ((fields ++ later).map Prod.fst).Nodup) : fields.merge later = fields ++ later := by
  induction later generalizing fields with
  | nil => exact (List.append_nil fields).symm
  | cons e rest ih =>
    have fresh : e.1 ∉ fields.map Prod.fst := by
      rw [List.map_append, List.map_cons] at distinct
      intro taken
      exact (List.nodup_append.1 distinct).2.2 _ taken _ List.mem_cons_self rfl
    have next : fields ++ e :: rest = fields ++ [(e.1, e.2)] ++ rest := by
      rw [List.append_assoc, List.singleton_append]
    rw [next] at distinct ⊢
    rw [merge_cons, put_of_not_mem e.2 fresh, ih _ distinct]

/-- What is put at last under a name that stands there, and is not among what is put over it, may
come before that. -/
theorem put_merge {fields later : Fields α} {name : String} (there : name ∈ fields.map Prod.fst)
    (other : name ∉ later.map Prod.fst) (value : α) :
    (fields.merge later).put name value = (fields.put name value).merge later := by
  induction later generalizing fields with
  | nil => rfl
  | cons e rest ih =>
    obtain ⟨n, v⟩ := e
    rw [List.map_cons, List.mem_cons, not_or] at other
    rw [merge_cons, merge_cons, ih (mem_names_put.mpr (.inl there)) other.2,
      put_comm_of_mem there (Ne.symm other.1)]

/-- One entry more. -/
theorem merge_put (fields : Fields α) {later : Fields α} (distinct : (later.map Prod.fst).Nodup)
    (name : String) (value : α) :
    fields.merge (later.put name value) = (fields.merge later).put name value := by
  induction later generalizing fields with
  | nil => rfl
  | cons e rest ih =>
    obtain ⟨n, v⟩ := e
    rw [List.map_cons, List.nodup_cons] at distinct
    by_cases hn : n = name
    · subst hn
      have there : n ∈ (fields.put n v).map Prod.fst := mem_names_put.mpr (.inr rfl)
      rw [put_cons_self, merge_cons, merge_cons, put_merge there distinct.1, put_put]
    · rw [put_cons_of_ne hn, merge_cons, merge_cons, ih _ distinct.2]

theorem merge_assoc (fields : Fields α) {acc : Fields α} (distinct : (acc.map Prod.fst).Nodup)
    (later : Fields α) : fields.merge (acc.merge later) = (fields.merge acc).merge later := by
  induction later generalizing acc with
  | nil => rfl
  | cons e rest ih =>
    obtain ⟨n, v⟩ := e
    rw [merge_cons, ih (nodup_names_put distinct n v), merge_put fields distinct, merge_cons]

theorem nodup_names_nil : (([] : Fields α).map Prod.fst).Nodup := List.nodup_nil

theorem nodup_names_merge {fields : Fields α} (distinct : (fields.map Prod.fst).Nodup)
    (later : Fields α) : ((fields.merge later).map Prod.fst).Nodup := by
  induction later generalizing fields with
  | nil => exact distinct
  | cons e rest ih => exact ih (nodup_names_put distinct e.1 e.2)

end AccountPortal.Fields

import AccountPortal.Schema.Layout

/-!
# Scripts

What a list of statements makes of a catalog. A table that the statements do not concern may be
left out of account (`script_without`). Declaring tables succeeds when their names are new
(`script_declare`); dropping the tables leads back (`script_dropTables`), and so does undoing the
statements one by one, the last one first (`script_undo`).
-/

namespace AccountPortal

open Layout

/-- The statement neither makes nor drops the table, nor an index of it. -/
def Statement.Spares (n : String) : Statement → Prop
  | .createTable t => t.name ≠ n
  | .createIndex i => i.name ≠ n ∧ i.table ≠ n
  | .dropTable m => m ≠ n
  | .dropIndex _ => True

instance (n : String) : DecidablePred (Statement.Spares n)
  | .createTable t => inferInstanceAs (Decidable (t.name ≠ n))
  | .createIndex i => inferInstanceAs (Decidable (i.name ≠ n ∧ i.table ≠ n))
  | .dropTable m => inferInstanceAs (Decidable (m ≠ n))
  | .dropIndex _ => .isTrue trivial

def Statement.Creates : Statement → Prop
  | .createTable _ | .createIndex _ => True
  | .dropTable _ | .dropIndex _ => False

/-- What takes a creation back. -/
def Statement.undo : Statement → Statement
  | .createTable t => .dropTable t.name
  | .createIndex i => .dropIndex i.name
  | s => s

/-- The names that a declaration uses. -/
def Layout.Declared.names (d : Declared) : List String := d.table.name :: d.indexes.map (·.name)

namespace Catalog

variable {c c' : Catalog} {s : Statement} {rest : List Statement} {n m : String}

/-! ## One statement after another -/

theorem script_cons_of_some (h : c.execute s = some c') :
    c.script (s :: rest) = c'.script rest := by
  simp only [script, h]

theorem script_cons_of_none (h : c.execute s = none) : c.script (s :: rest) = (c, false) := by
  simp only [script, h]

theorem script_append {first : List Statement} (h : c.script first = (c', true))
    (last : List Statement) : c.script (first ++ last) = c'.script last := by
  induction first generalizing c with
  | nil =>
    cases h
    rfl
  | cons s rest ih =>
    cases hs : c.execute s with
    | none =>
      rw [script_cons_of_none hs] at h
      cases h
    | some next =>
      rw [script_cons_of_some hs] at h
      rw [List.cons_append, script_cons_of_some hs, ih h]

/-! ## A table left out of account -/

/-- The catalog but for one table. -/
def without (n : String) (c : Catalog) : Catalog :=
  { c with tables := c.tables.filter (·.name != n) }

theorem hasTable_without (h : m ≠ n) : (c.without n).hasTable m = c.hasTable m := by
  simp only [hasTable, without, List.any_filter]
  congr 1
  funext t
  by_cases same : t.name = m
  · simp [same, h]
  · simp [same]

@[simp]
theorem hasIndex_without : (c.without n).hasIndex m = c.hasIndex m := rfl

theorem execute_without (h : s.Spares n) :
    (c.without n).execute s = (c.execute s).map (without n) := by
  cases s with
  | createTable t =>
    have kept : (t.name != n) = true := bne_iff_ne.mpr h
    simp only [execute, hasTable_without h, hasIndex_without]
    rw [apply_ite (Option.map (without n))]
    simp [without, List.filter_append, kept]
  | createIndex i =>
    simp only [execute, hasTable_without h.1, hasTable_without h.2, hasIndex_without]
    rw [apply_ite (Option.map (without n))]
    rfl
  | dropTable m =>
    simp only [execute, hasTable_without h]
    rw [apply_ite (Option.map (without n))]
    simp only [Option.map_some, Option.map_none, without, List.filter_filter, Bool.and_comm]
  | dropIndex m =>
    simp only [execute, hasIndex_without]
    rw [apply_ite (Option.map (without n))]
    rfl

theorem script_without {statements : List Statement} (h : ∀ s ∈ statements, s.Spares n) :
    (c.without n).script statements =
      ((c.script statements).1.without n, (c.script statements).2) := by
  induction statements generalizing c with
  | nil => rfl
  | cons s rest ih =>
    have one := execute_without (c := c) (h s List.mem_cons_self)
    cases hs : c.execute s with
    | none =>
      rw [hs] at one
      rw [script_cons_of_none hs, script_cons_of_none one]
    | some next =>
      rw [hs] at one
      rw [script_cons_of_some hs, script_cons_of_some one]
      exact ih fun s hs => h s (List.mem_cons_of_mem _ hs)

/-! ## Taking creations back -/

/-- Every index is on a table that exists. -/
def Sound (c : Catalog) : Prop := ∀ i ∈ c.indexes, c.hasTable i.table = true

/-- Nothing goes when nothing has the name. -/
theorem filter_ne_eq_self {α : Type} {name : α → String} {l : List α}
    (free : l.any (name · == n) = false) : l.filter (name · != n) = l := by
  rw [List.filter_eq_self]
  intro x mem
  exact bne_iff_ne.mpr fun same => List.any_eq_false.mp free x mem (beq_iff_eq.mpr same)

theorem filter_ne_append_self {α : Type} {name : α → String} {l : List α} {x : α}
    (free : l.any (name · == name x) = false) : (l ++ [x]).filter (name · != name x) = l := by
  rw [List.filter_append, filter_ne_eq_self free]
  simp

/-- A name that no table has is no index's table. -/
theorem Sound.any_table (sound : c.Sound) (free : c.hasTable n = false) :
    c.indexes.any (·.table == n) = false := by
  rw [List.any_eq_false]
  intro i mem same
  have there := sound i mem
  rw [beq_iff_eq.mp same, free] at there
  cases there

theorem execute_createTable_eq_some {t : TableSpec} :
    c.execute (.createTable t) = some c' ↔
      c.hasTable t.name = false ∧ c.hasIndex t.name = false ∧
        c' = { c with tables := c.tables ++ [t] } := by
  simp only [execute]
  split
  · next used =>
    rw [Bool.or_eq_true] at used
    grind
  · next free =>
    rw [Bool.or_eq_true, not_or] at free
    grind

theorem execute_createIndex_eq_some {i : IndexSpec} :
    c.execute (.createIndex i) = some c' ↔
      c.hasIndex i.name = false ∧ c.hasTable i.name = false ∧ c.hasTable i.table = true ∧
        c' = { c with indexes := c.indexes ++ [i] } := by
  simp only [execute]
  split
  · next used => grind
  · next free => grind

theorem sound_of_execute (sound : c.Sound) (creates : s.Creates) (h : c.execute s = some c') :
    c'.Sound := by
  cases s with
  | createTable t =>
    obtain ⟨-, -, rfl⟩ := execute_createTable_eq_some.mp h
    intro i mem
    have there := sound i mem
    simp only [hasTable] at there ⊢
    rw [List.any_append, there, Bool.true_or]
  | createIndex i =>
    obtain ⟨-, -, there, rfl⟩ := execute_createIndex_eq_some.mp h
    intro j mem
    obtain old | new := List.mem_append.mp mem
    · exact sound j old
    · rw [List.mem_singleton.mp new]
      exact there
  | dropTable m => exact creates.elim
  | dropIndex m => exact creates.elim

theorem execute_undo (sound : c.Sound) (creates : s.Creates) (h : c.execute s = some c') :
    c'.execute s.undo = some c := by
  cases s with
  | createTable t =>
    obtain ⟨free, -, rfl⟩ := execute_createTable_eq_some.mp h
    simp only [Statement.undo, execute]
    rw [if_pos (by simp [hasTable]), filter_ne_append_self free,
      filter_ne_eq_self (sound.any_table free)]
  | createIndex i =>
    obtain ⟨free, -, -, rfl⟩ := execute_createIndex_eq_some.mp h
    simp only [Statement.undo, execute]
    rw [if_pos (by simp [hasIndex]), filter_ne_append_self free]
  | dropTable m => exact creates.elim
  | dropIndex m => exact creates.elim

/-- Undone in the reverse order, a script of creations leads back to where it started. -/
theorem script_undo {statements : List Statement} (sound : c.Sound)
    (creates : ∀ s ∈ statements, s.Creates) (h : c.script statements = (c', true)) :
    c'.script (statements.reverse.map Statement.undo) = (c, true) := by
  induction statements generalizing c with
  | nil =>
    cases h
    rfl
  | cons s rest ih =>
    cases hs : c.execute s with
    | none =>
      rw [script_cons_of_none hs] at h
      cases h
    | some next =>
      have one := creates s List.mem_cons_self
      rw [script_cons_of_some hs] at h
      have back := ih (sound_of_execute sound one hs)
        (fun s hs => creates s (List.mem_cons_of_mem _ hs)) h
      rw [List.reverse_cons, List.map_append, script_append back]
      exact script_cons_of_some (execute_undo sound one hs)

/-! ## Declarations -/

/-- Neither a table nor an index has the name. -/
def Free (c : Catalog) (n : String) : Prop := c.hasTable n = false ∧ c.hasIndex n = false

/-- The catalog with further tables, and with the indexes they are declared with. -/
def declare (c : Catalog) (ds : List Declared) : Catalog :=
  ⟨c.tables ++ ds.map (·.table), c.indexes ++ ds.flatMap Declared.indexes⟩

/-- The names of the tables and of their indexes are new, and each is used once. -/
structure Admits (c : Catalog) (ds : List Declared) : Prop where
  free : ∀ n ∈ ds.flatMap Declared.names, c.Free n
  distinct : (ds.flatMap Declared.names).Nodup

variable {d : Declared} {ds : List Declared}

theorem declare_nil (c : Catalog) : c.declare [] = c := by
  simp [declare]

theorem declare_cons (c : Catalog) (d : Declared) (ds : List Declared) :
    c.declare (d :: ds) = (c.declare [d]).declare ds := by
  simp [declare]

theorem free_declare_iff : (c.declare [d]).Free n ↔ c.Free n ∧ n ∉ d.names := by
  simp only [Free, declare, hasTable, hasIndex, Declared.names, List.any_append,
    Bool.or_eq_false_iff, List.any_eq_false, List.mem_cons, List.mem_map, List.map_cons,
    List.map_nil, List.flatMap_cons, List.flatMap_nil, List.append_nil, beq_iff_eq]
  grind

theorem Admits.head (h : c.Admits (d :: ds)) : c.Admits [d] := by
  obtain ⟨free, distinct⟩ := h
  rw [List.flatMap_cons] at free distinct
  refine ⟨fun n mem => free n ?_, ?_⟩
  · rw [List.flatMap_singleton] at mem
    exact List.mem_append_left _ mem
  · rw [List.flatMap_singleton]
    exact (List.nodup_append.mp distinct).1

theorem Admits.tail (h : c.Admits (d :: ds)) : (c.declare [d]).Admits ds := by
  obtain ⟨free, distinct⟩ := h
  rw [List.flatMap_cons] at free distinct
  obtain ⟨-, later, apart⟩ := List.nodup_append.mp distinct
  refine ⟨fun n mem => free_declare_iff.mpr ⟨free n (List.mem_append_right _ mem), ?_⟩, later⟩
  intro first
  exact apart n first n mem rfl

theorem creates_of_mem_statements (h : s ∈ ds.flatMap Declared.statements) : s.Creates := by
  obtain ⟨d, -, mem⟩ := List.mem_flatMap.mp h
  obtain rfl | index := List.mem_cons.mp mem
  · trivial
  · obtain ⟨i, -, rfl⟩ := List.mem_map.mp index
    trivial

theorem table_of_mem_indexes {i : IndexSpec} (h : i ∈ d.indexes) : i.table = d.table.name := by
  obtain ⟨column, -, rfl⟩ := List.mem_map.mp h
  rfl

theorem Sound.declare (sound : c.Sound) (ds : List Declared) : (c.declare ds).Sound := by
  intro i mem
  simp only [Catalog.declare, hasTable, List.any_append, Bool.or_eq_true]
  obtain old | new := List.mem_append.mp mem
  · exact .inl (sound i old)
  · obtain ⟨d, declared, own⟩ := List.mem_flatMap.mp new
    right
    exact List.any_eq_true.mpr
      ⟨d.table, List.mem_map_of_mem declared, beq_iff_eq.mpr (table_of_mem_indexes own).symm⟩

theorem script_createIndexes {is : List IndexSpec} (free : ∀ i ∈ is, c.Free i.name)
    (distinct : (is.map (·.name)).Nodup) (owned : ∀ i ∈ is, c.hasTable i.table = true) :
    c.script (is.map .createIndex) = ({ c with indexes := c.indexes ++ is }, true) := by
  induction is generalizing c with
  | nil => simp [script]
  | cons i rest ih =>
    obtain ⟨noTable, noIndex⟩ := free i List.mem_cons_self
    have created : c.execute (.createIndex i) = some { c with indexes := c.indexes ++ [i] } :=
      execute_createIndex_eq_some.mpr ⟨noIndex, noTable, owned i List.mem_cons_self, rfl⟩
    rw [List.map_cons, script_cons_of_some created, ih]
    · simp
    · intro j mem
      have := free j (List.mem_cons_of_mem _ mem)
      simp only [Free, hasTable, hasIndex] at this ⊢
      grind
    · exact (List.nodup_cons.mp distinct).2
    · exact fun j mem => owned j (List.mem_cons_of_mem _ mem)

theorem script_statements (h : c.Admits [d]) : c.script d.statements = (c.declare [d], true) := by
  obtain ⟨free, distinct⟩ := h
  rw [List.flatMap_singleton] at free distinct
  obtain ⟨apart, distinct⟩ := List.nodup_cons.mp distinct
  obtain ⟨noTable, noIndex⟩ := free d.table.name List.mem_cons_self
  have created := execute_createTable_eq_some.mpr ⟨noTable, noIndex, rfl⟩
  rw [Declared.statements, script_cons_of_some created, script_createIndexes _ distinct]
  · simp [declare]
  · simp [Declared.indexes, hasTable]
  · intro i mem
    have := free i.name (List.mem_cons_of_mem _ (List.mem_map_of_mem mem))
    simp only [Free, hasTable, hasIndex] at this ⊢
    grind

/-- Tables with new names are declared one after another, and nothing else changes. -/
theorem script_declare (h : c.Admits ds) :
    c.script (ds.flatMap Declared.statements) = (c.declare ds, true) := by
  induction ds generalizing c with
  | nil =>
    rw [declare_nil]
    rfl
  | cons d ds ih =>
    rw [List.flatMap_cons, script_append (script_statements h.head), ih h.tail, ← declare_cons]

theorem execute_dropTable_declare (h : c.Admits [d]) (sound : c.Sound) :
    (c.declare [d]).execute (.dropTable d.table.name) = some c := by
  have noTable : c.hasTable d.table.name = false :=
    (h.free d.table.name (by simp [Declared.names])).1
  have own : d.indexes.filter (·.table != d.table.name) = [] := by
    rw [List.filter_eq_nil_iff]
    intro i mem
    simp [table_of_mem_indexes mem]
  simp only [execute, declare, List.map_cons, List.map_nil, List.flatMap_singleton]
  rw [if_pos (by simp [hasTable]), filter_ne_append_self noTable, List.filter_append,
    filter_ne_eq_self (sound.any_table noTable), own, List.append_nil]

/-- Declared tables go with their indexes, the last one first. -/
theorem script_dropTables (h : c.Admits ds) (sound : c.Sound) :
    (c.declare ds).script (ds.map fun d => Statement.dropTable d.table.name).reverse =
      (c, true) := by
  induction ds generalizing c with
  | nil =>
    rw [declare_nil]
    rfl
  | cons d ds ih =>
    have later := ih h.tail (sound.declare [d])
    rw [declare_cons, List.map_cons, List.reverse_cons, script_append later]
    exact script_cons_of_some (execute_dropTable_declare h.head sound)

end Catalog

end AccountPortal

import AccountPortal.Proofs.Schema.Scripts
import AccountPortal.Schema.Migration

/-!
# Steps on a file

A file is brought to its tables in two ways, all at once or by the migration, and rid of them in
two. In whatever order the steps come, it moves between the states of an `Outline` (`step_fits`):
every table is there with its indexes, or none is. What a step does is then read from the outline
(`schema_steps_all_or_nothing`).
-/

namespace AccountPortal

open Layout

namespace Migration

/-! ## The two descriptions of the tables -/

/-- The tables as the migration makes them: some flags have a default. -/
def tables : List Declared :=
  Layout.tables.map fun d =>
    { d with table := defaultFalse ["email_verified", "node_approved", "active"] d.table }

theorem up_eq : up = tables.flatMap Declared.statements := by decide

theorem down_eq_undo_up : down = up.reverse.map Statement.undo := by decide

/-- What is dropped on the way back has the names that the layout gives. -/
theorem down_eq_undo_layout :
    down = (Layout.tables.flatMap Declared.statements).reverse.map Statement.undo := by decide

theorem admits_layout : Catalog.empty.Admits Layout.tables where
  free n _ := ⟨rfl, rfl⟩
  distinct := by decide

theorem admits_tables : Catalog.empty.Admits tables where
  free n _ := ⟨rfl, rfl⟩
  distinct := by decide

theorem map_name_tables : tables.map (·.table.name) = Layout.tables.map (·.table.name) := by
  rw [tables, List.map_map]
  rfl

end Migration

/-! ## Shapes -/

/-- What a file has of the portal: nothing, or all its tables in one of two forms. -/
inductive Shape where
  | bare
  | declared
  | migrated
  deriving DecidableEq

namespace Shape

def tables : Shape → List Declared
  | .bare => []
  | .declared => Layout.tables
  | .migrated => Migration.tables

def catalog (s : Shape) : Catalog := Catalog.empty.declare s.tables

theorem admits_tables (s : Shape) : Catalog.empty.Admits s.tables := by
  cases s with
  | bare => exact ⟨fun n _ => ⟨rfl, rfl⟩, List.nodup_nil⟩
  | declared => exact Migration.admits_layout
  | migrated => exact Migration.admits_tables

theorem map_name_tables {s : Shape} (h : s ≠ .bare) :
    s.tables.map (·.table.name) = Layout.tables.map (·.table.name) := by
  cases s with
  | bare => exact absurd rfl h
  | declared => rfl
  | migrated => exact Migration.map_name_tables

theorem hasTable_bare (n : String) : bare.catalog.hasTable n = false := rfl

theorem hasTable_catalog {s : Shape} (h : s ≠ .bare) {d : Declared} (mem : d ∈ Layout.tables) :
    s.catalog.hasTable d.table.name = true := by
  have named : d.table.name ∈ s.tables.map (·.table.name) := by
    rw [map_name_tables h]
    exact List.mem_map_of_mem mem
  obtain ⟨e, there, same⟩ := List.mem_map.mp named
  refine List.any_eq_true.mpr ⟨e.table, ?_, beq_iff_eq.mpr same⟩
  exact List.mem_append_right _ (List.mem_map_of_mem there)

theorem indexes_catalog {s : Shape} (h : s ≠ .bare) :
    s.catalog.indexes = Layout.tables.flatMap Declared.indexes := by
  cases s with
  | bare => exact absurd rfl h
  | declared => rfl
  | migrated => rfl

theorem script_drops {s : Shape} (h : s ≠ .bare) :
    s.catalog.script (Layout.tables.map fun d => Statement.dropTable d.table.name).reverse =
      (bare.catalog, true) := by
  have drops : (Layout.tables.map fun d => Statement.dropTable d.table.name) =
      s.tables.map fun d => Statement.dropTable d.table.name := by
    have := congrArg (List.map Statement.dropTable) (map_name_tables h)
    rw [List.map_map, List.map_map] at this
    exact this.symm
  rw [drops]
  exact Catalog.script_dropTables s.admits_tables (by rintro i ⟨⟩)

/-! ## What is done to a shape -/

theorem createAll_catalog (s : Shape) :
    createAll s.catalog = ((if s = .bare then declared else s).catalog, true) := by
  split
  · next h =>
    subst h
    have missing : (Layout.tables.filter fun d => !bare.catalog.hasTable d.table.name) =
        Layout.tables := List.filter_eq_self.mpr fun d _ => rfl
    rw [createAll, missing]
    exact Catalog.script_declare Migration.admits_layout
  · next h =>
    have missing : (Layout.tables.filter fun d => !s.catalog.hasTable d.table.name) = [] := by
      rw [List.filter_eq_nil_iff]
      intro d mem
      rw [hasTable_catalog h mem]
      decide
    rw [createAll, missing]
    rfl

theorem dropAll_catalog (s : Shape) : dropAll s.catalog = (bare.catalog, true) := by
  by_cases h : s = .bare
  · subst h
    have there : (Layout.tables.filter fun d => bare.catalog.hasTable d.table.name) = [] :=
      List.filter_eq_nil_iff.mpr fun d _ => by simp [hasTable_bare]
    rw [dropAll, there]
    rfl
  · have there : (Layout.tables.filter fun d => s.catalog.hasTable d.table.name) = Layout.tables :=
      List.filter_eq_self.mpr fun d mem => hasTable_catalog h mem
    rw [dropAll, there, script_drops h]

theorem up_bare : bare.catalog.script Migration.up = (migrated.catalog, true) := by
  rw [Migration.up_eq]
  exact Catalog.script_declare Migration.admits_tables

/-- The first table is there already. -/
theorem up_catalog {s : Shape} (h : s ≠ .bare) :
    s.catalog.script Migration.up = (s.catalog, false) := by
  have taken : s.catalog.hasTable "portal_users" = true :=
    hasTable_catalog h (d := ⟨Layout.users, []⟩) List.mem_cons_self
  refine Catalog.script_cons_of_none (if_pos ?_)
  rw [Bool.or_eq_true]
  exact .inl taken

/-- The last table is not there. -/
theorem down_bare : bare.catalog.script Migration.down = (bare.catalog, false) :=
  Catalog.script_cons_of_none rfl

theorem down_catalog {s : Shape} (h : s ≠ .bare) :
    s.catalog.script Migration.down = (bare.catalog, true) := by
  have undo : Migration.down =
      (s.tables.flatMap Declared.statements).reverse.map Statement.undo := by
    cases s with
    | bare => exact absurd rfl h
    | declared => exact Migration.down_eq_undo_layout
    | migrated => rw [Shape.tables, ← Migration.up_eq, Migration.down_eq_undo_up]
  rw [undo]
  exact Catalog.script_undo (by rintro i ⟨⟩) (fun _ => Catalog.creates_of_mem_statements)
    (Catalog.script_declare s.admits_tables)

end Shape

/-! ## Files and their outlines -/

structure Outline where
  shape : Shape
  stamped : Bool

namespace SchemaFile

/-- The file but for the table of its version. -/
def portal (f : SchemaFile) : Catalog := f.catalog.without Migration.versionTable.name

/-- What the file has after some steps, those that fail counted in. -/
def after (steps : List Step) : SchemaFile := steps.foldl (fun f s => (f.step s).1) empty

/-- Every table is there, and the indexes are those of the layout. -/
def Full (f : SchemaFile) : Prop :=
  (∀ d ∈ Layout.tables, f.catalog.hasTable d.table.name = true) ∧
    f.catalog.indexes = Layout.tables.flatMap Declared.indexes

/-- No table is there, and no index. -/
def Bare (f : SchemaFile) : Prop :=
  (∀ d ∈ Layout.tables, f.catalog.hasTable d.table.name = false) ∧ f.catalog.indexes = []

structure Fits (f : SchemaFile) (o : Outline) : Prop where
  portal : f.portal = o.shape.catalog
  stamped : f.stamped = o.stamped

end SchemaFile

/-- What a step does to an outline, and whether it succeeds. -/
def Outline.step (o : Outline) : SchemaFile.Step → Outline × Bool
  | .createAll => ({ o with shape := if o.shape = .bare then .declared else o.shape }, true)
  | .dropAll => ({ o with shape := .bare }, true)
  | .upgrade =>
    if o.stamped then (o, true)
    else if o.shape = .bare then (⟨.migrated, true⟩, true)
    else (o, false)
  | .downgrade =>
    if !o.stamped then (o, true)
    else if o.shape = .bare then (o, false)
    else (⟨.bare, false⟩, true)

theorem Outline.step_of_fails {o : Outline} {s : SchemaFile.Step} (fails : (o.step s).2 = false) :
    (o.step s).1 = o := by
  cases s with
  | createAll => cases fails
  | dropAll => cases fails
  | upgrade =>
    simp only [step] at fails ⊢
    grind
  | downgrade =>
    simp only [step] at fails ⊢
    grind

namespace SchemaFile

variable {f : SchemaFile} {o : Outline}

theorem portal_prepare (f : SchemaFile) : f.prepare.portal = f.portal := by
  unfold prepare
  split
  · rfl
  · simp [portal, Catalog.without, List.filter_append]

theorem stamped_prepare (f : SchemaFile) : f.prepare.stamped = f.stamped := by
  unfold prepare
  split <;> rfl

theorem Fits.prepare (h : f.Fits o) : f.prepare.Fits o where
  portal := (portal_prepare f).trans h.portal
  stamped := (stamped_prepare f).trans h.stamped

/-! ## The version table is left out of account -/

theorem ne_versionTable {d : Declared} (mem : d ∈ Layout.tables) :
    d.table.name ≠ Migration.versionTable.name := by
  revert d
  decide

theorem hasTable_portal (f : SchemaFile) {d : Declared} (mem : d ∈ Layout.tables) :
    f.portal.hasTable d.table.name = f.catalog.hasTable d.table.name :=
  Catalog.hasTable_without (ne_versionTable mem)

theorem createAll_portal (f : SchemaFile) :
    createAll f.portal =
      ((createAll f.catalog).1.without Migration.versionTable.name, (createAll f.catalog).2) := by
  have spares : ∀ s ∈ Layout.tables.flatMap Declared.statements,
      s.Spares Migration.versionTable.name := by decide
  have missing : (Layout.tables.filter fun d => !f.portal.hasTable d.table.name) =
      Layout.tables.filter fun d => !f.catalog.hasTable d.table.name :=
    List.filter_congr fun d mem => by rw [hasTable_portal f mem]
  rw [createAll, missing]
  refine Catalog.script_without fun s mem => spares s ?_
  obtain ⟨d, filtered, own⟩ := List.mem_flatMap.mp mem
  exact List.mem_flatMap.mpr ⟨d, (List.mem_filter.mp filtered).1, own⟩

theorem dropAll_portal (f : SchemaFile) :
    dropAll f.portal =
      ((dropAll f.catalog).1.without Migration.versionTable.name, (dropAll f.catalog).2) := by
  have there : (Layout.tables.filter fun d => f.portal.hasTable d.table.name) =
      Layout.tables.filter fun d => f.catalog.hasTable d.table.name :=
    List.filter_congr fun d mem => hasTable_portal f mem
  rw [dropAll, there]
  refine Catalog.script_without fun s mem => ?_
  obtain ⟨d, filtered, rfl⟩ := List.mem_map.mp (List.mem_reverse.mp mem)
  exact ne_versionTable (List.mem_filter.mp filtered).1

theorem script_portal (f : SchemaFile) (script : List Statement)
    (spares : ∀ s ∈ script, s.Spares Migration.versionTable.name) :
    f.portal.script script =
      ((f.catalog.script script).1.without Migration.versionTable.name,
        (f.catalog.script script).2) :=
  Catalog.script_without spares

/-! ## One step -/

theorem step_createAll_fits (h : f.Fits o) :
    (f.step .createAll).1.Fits (o.step .createAll).1 ∧ (f.step .createAll).2 = true := by
  have made := createAll_portal f
  rw [h.portal, Shape.createAll_catalog, Prod.mk.injEq] at made
  exact ⟨⟨made.1.symm, h.stamped⟩, made.2.symm⟩

theorem step_dropAll_fits (h : f.Fits o) :
    (f.step .dropAll).1.Fits (o.step .dropAll).1 ∧ (f.step .dropAll).2 = true := by
  have made := dropAll_portal f
  rw [h.portal, Shape.dropAll_catalog, Prod.mk.injEq] at made
  exact ⟨⟨made.1.symm, h.stamped⟩, made.2.symm⟩

theorem step_upgrade_fits (h : f.Fits o) :
    (f.step .upgrade).1.Fits (o.step .upgrade).1 ∧
      (f.step .upgrade).2 = (o.step .upgrade).2 := by
  have ready := h.prepare
  have made := script_portal f.prepare Migration.up (by decide)
  rw [ready.portal] at made
  simp only [step, Outline.step, ready.stamped]
  split
  · exact ⟨ready, rfl⟩
  · next unstamped =>
    split
    · next bare =>
      rw [bare, Shape.up_bare, Prod.mk.injEq] at made
      exact ⟨⟨made.1.symm, made.2.symm⟩, made.2.symm⟩
    · next full =>
      rw [Shape.up_catalog full, Prod.mk.injEq] at made
      refine ⟨⟨made.1.symm, ?_⟩, made.2.symm⟩
      rw [Bool.not_eq_true] at unstamped
      rw [unstamped]
      exact made.2.symm

theorem step_downgrade_fits (h : f.Fits o) :
    (f.step .downgrade).1.Fits (o.step .downgrade).1 ∧
      (f.step .downgrade).2 = (o.step .downgrade).2 := by
  have ready := h.prepare
  have made := script_portal f.prepare Migration.down (by decide)
  rw [ready.portal] at made
  simp only [step, Outline.step, ready.stamped]
  cases stamp : o.stamped with
  | false => exact ⟨ready, rfl⟩
  | true =>
    simp only [Bool.not_true, Bool.false_eq_true, if_false, if_true]
    split
    · next bare =>
      rw [bare, Shape.down_bare, Prod.mk.injEq] at made
      refine ⟨⟨made.1.symm.trans (congrArg Shape.catalog bare.symm), ?_⟩, made.2.symm⟩
      rw [← made.2, stamp]
      rfl
    · next full =>
      rw [Shape.down_catalog full, Prod.mk.injEq] at made
      refine ⟨⟨made.1.symm, ?_⟩, made.2.symm⟩
      rw [← made.2]
      rfl

theorem step_fits (h : f.Fits o) (s : Step) :
    (f.step s).1.Fits (o.step s).1 ∧ (f.step s).2 = (o.step s).2 := by
  cases s with
  | createAll => exact step_createAll_fits h
  | dropAll => exact step_dropAll_fits h
  | upgrade => exact step_upgrade_fits h
  | downgrade => exact step_downgrade_fits h

/-! ## Every run -/

theorem foldl_fits (steps : List Step) (h : f.Fits o) :
    (steps.foldl (fun f s => (f.step s).1) f).Fits
      (steps.foldl (fun o s => (o.step s).1) o) := by
  induction steps generalizing f o with
  | nil => exact h
  | cons s steps ih => exact ih (step_fits h s).1

/-- Whatever was done to a file, it has one of the outlines. -/
theorem exists_fits_after (steps : List Step) : ∃ o, (after steps).Fits o :=
  have new : empty.Fits ⟨.bare, false⟩ := ⟨rfl, rfl⟩
  ⟨_, foldl_fits steps new⟩

theorem Fits.full_iff (h : f.Fits o) : f.Full ↔ o.shape ≠ .bare := by
  constructor
  · rintro ⟨tables, -⟩ bare
    have there := tables ⟨Layout.users, []⟩ List.mem_cons_self
    rw [← hasTable_portal f List.mem_cons_self, h.portal, bare] at there
    cases there
  · intro full
    have indexes : f.portal.indexes = o.shape.catalog.indexes := congrArg Catalog.indexes h.portal
    refine ⟨fun d mem => ?_, indexes.trans (Shape.indexes_catalog full)⟩
    rw [← hasTable_portal f mem, h.portal]
    exact Shape.hasTable_catalog full mem

theorem Fits.bare_iff (h : f.Fits o) : f.Bare ↔ o.shape = .bare := by
  constructor
  · rintro ⟨tables, -⟩
    by_cases bare : o.shape = .bare
    · exact bare
    · have absent := tables ⟨Layout.users, []⟩ List.mem_cons_self
      rw [(h.full_iff.mpr bare).1 _ List.mem_cons_self] at absent
      cases absent
  · intro bare
    have portal : f.portal = Shape.bare.catalog := by rw [h.portal, bare]
    refine ⟨fun d mem => ?_, congrArg Catalog.indexes portal⟩
    rw [← hasTable_portal f mem, portal]
    rfl

/-! ## What the steps come to -/

theorem Fits.bare_or_full (h : f.Fits o) : f.Bare ∨ f.Full := by
  rw [h.bare_iff, h.full_iff]
  exact Decidable.em _

theorem Fits.not_bare_and_full (h : f.Fits o) : ¬(f.Bare ∧ f.Full) := by
  rw [h.bare_iff, h.full_iff]
  exact fun ⟨bare, full⟩ => full bare

/-- A step that fails leaves the tables and indexes of the portal as they were. -/
theorem Fits.portal_of_fails (h : f.Fits o) {s : Step} (fails : (f.step s).2 = false) :
    (f.step s).1.portal = f.portal := by
  obtain ⟨after, same⟩ := step_fits h s
  rw [same] at fails
  rw [after.portal, h.portal, Outline.step_of_fails fails]

theorem Fits.createAll_full (h : f.Fits o) : (f.step .createAll).1.Full := by
  rw [(step_createAll_fits h).1.full_iff]
  simp only [Outline.step]
  split
  · decide
  · next full => exact full

theorem Fits.dropAll_bare (h : f.Fits o) : (f.step .dropAll).1.Bare :=
  (step_dropAll_fits h).1.bare_iff.mpr rfl

theorem Fits.upgrade_fails_iff (h : f.Fits o) :
    (f.step .upgrade).2 = false ↔ f.stamped = false ∧ f.Full := by
  rw [(step_fits h .upgrade).2, h.full_iff, h.stamped]
  simp only [Outline.step]
  split
  · next stamped => simp [stamped]
  · next unstamped =>
    split
    · next bare => simp [bare]
    · next full => simp [full, unstamped]

theorem Fits.downgrade_fails_iff (h : f.Fits o) :
    (f.step .downgrade).2 = false ↔ f.stamped = true ∧ f.Bare := by
  rw [(step_fits h .downgrade).2, h.bare_iff, h.stamped]
  simp only [Outline.step]
  cases o.stamped with
  | false => simp
  | true =>
    by_cases bare : o.shape = .bare
    · simp [bare]
    · simp [bare]

theorem stamped_upgrade (f : SchemaFile) :
    (f.step .upgrade).1.stamped = (f.step .upgrade).2 := by
  simp only [step]
  split
  · next stamped => exact stamped
  · rfl

theorem stamped_downgrade (f : SchemaFile) :
    (f.step .downgrade).1.stamped = !(f.step .downgrade).2 := by
  simp only [step]
  split
  · rfl
  · next unstamped => simpa using unstamped

/-- Tables that are there stay as they are. -/
theorem Fits.createAll_of_full (h : f.Fits o) (full : f.Full) :
    (f.step .createAll).1.portal = f.portal := by
  rw [(step_createAll_fits h).1.portal, h.portal]
  simp only [Outline.step, if_neg (h.full_iff.mp full)]

/-- A new file gets the tables in the form of the migration. -/
theorem Fits.upgrade_of_bare (h : f.Fits o) (unstamped : f.stamped = false) (bare : f.Bare) :
    (f.step .upgrade).1.portal = Shape.migrated.catalog ∧ (f.step .upgrade).1.Full := by
  have fits := (step_upgrade_fits h).1
  rw [h.stamped] at unstamped
  have made : (o.step .upgrade).1 = ⟨.migrated, true⟩ := by
    simp [Outline.step, unstamped, h.bare_iff.mp bare]
  rw [made] at fits
  exact ⟨fits.portal, fits.full_iff.mpr nofun⟩

/-- A file that was migrated is not looked at, whatever tables it has. -/
theorem Fits.upgrade_of_stamped (h : f.Fits o) (stamped : f.stamped = true) :
    (f.step .upgrade).1.portal = f.portal := by
  rw [h.stamped] at stamped
  rw [(step_upgrade_fits h).1.portal, h.portal]
  simp only [Outline.step, stamped, if_true]

theorem Fits.downgrade_of_unstamped (h : f.Fits o) (unstamped : f.stamped = false) :
    (f.step .downgrade).1.portal = f.portal := by
  rw [h.stamped] at unstamped
  rw [(step_downgrade_fits h).1.portal, h.portal]
  simp only [Outline.step, unstamped, Bool.not_false, if_true]

theorem Fits.downgrade_of_full (h : f.Fits o) (stamped : f.stamped = true) (full : f.Full) :
    (f.step .downgrade).1.Bare := by
  rw [h.stamped] at stamped
  rw [(step_downgrade_fits h).1.bare_iff]
  simp [Outline.step, stamped, h.full_iff.mp full]

/-- A stamped file whose tables were made all at once can be taken back. -/
theorem Fits.downgrade_rebuilt (h : f.Fits o) (stamped : f.stamped = true) :
    let rebuilt := ((f.step .dropAll).1.step .createAll).1
    (rebuilt.step .downgrade).2 = true ∧ (rebuilt.step .downgrade).1.Bare := by
  intro rebuilt
  have fits := (step_createAll_fits (step_dropAll_fits h).1).1
  obtain ⟨after, same⟩ := step_downgrade_fits fits
  rw [h.stamped] at stamped
  rw [after.bare_iff, same]
  simp [Outline.step, stamped]

end SchemaFile

/-- After any steps, those that failed counted in, a file has all the tables of the portal with
their indexes, or none. Making or dropping all of them always succeeds and leaves the stamp. The
migration fails just on a file that has the tables and no stamp; a file without either gets both,
and one that has the stamp is left as it is. The way back fails just on a file that has the stamp
and no tables; one that has both loses both, and one without the stamp is left as it is. A step that
fails changes nothing of the portal. A stamped file may have been rebuilt without the migration:
what the way back drops has the names that the layout gives. -/
theorem schema_steps_all_or_nothing (steps : List SchemaFile.Step) :
    let f := SchemaFile.after steps
    (f.Bare ∨ f.Full) ∧ ¬(f.Bare ∧ f.Full) ∧ (∃ s : Shape, f.portal = s.catalog) ∧
    (∀ s, (f.step s).2 = false → (f.step s).1.portal = f.portal) ∧
    ((f.step .createAll).2 = true ∧ (f.step .createAll).1.Full ∧
      (f.step .createAll).1.stamped = f.stamped ∧
      (f.Full → (f.step .createAll).1.portal = f.portal)) ∧
    ((f.step .dropAll).2 = true ∧ (f.step .dropAll).1.Bare ∧
      (f.step .dropAll).1.stamped = f.stamped) ∧
    ((f.step .upgrade).2 = false ↔ f.stamped = false ∧ f.Full) ∧
    (f.step .upgrade).1.stamped = (f.step .upgrade).2 ∧
    (f.stamped = false → f.Bare →
      (f.step .upgrade).1.portal = Shape.migrated.catalog ∧ (f.step .upgrade).1.Full) ∧
    (f.stamped = true → (f.step .upgrade).1.portal = f.portal) ∧
    ((f.step .downgrade).2 = false ↔ f.stamped = true ∧ f.Bare) ∧
    (f.step .downgrade).1.stamped = (!(f.step .downgrade).2) ∧
    (f.stamped = true → f.Full → (f.step .downgrade).1.Bare) ∧
    (f.stamped = false → (f.step .downgrade).1.portal = f.portal) ∧
    (f.stamped = true →
      let rebuilt := ((f.step .dropAll).1.step .createAll).1
      (rebuilt.step .downgrade).2 = true ∧ (rebuilt.step .downgrade).1.Bare) ∧
    Migration.down = (Layout.tables.flatMap Declared.statements).reverse.map Statement.undo := by
  intro f
  obtain ⟨o, fits⟩ := SchemaFile.exists_fits_after steps
  exact ⟨fits.bare_or_full, fits.not_bare_and_full, ⟨o.shape, fits.portal⟩,
    fun s => fits.portal_of_fails,
    ⟨(SchemaFile.step_createAll_fits fits).2, fits.createAll_full, rfl, fits.createAll_of_full⟩,
    ⟨(SchemaFile.step_dropAll_fits fits).2, fits.dropAll_bare, rfl⟩,
    fits.upgrade_fails_iff, f.stamped_upgrade, fits.upgrade_of_bare, fits.upgrade_of_stamped,
    fits.downgrade_fails_iff, f.stamped_downgrade, fits.downgrade_of_full,
    fits.downgrade_of_unstamped, fits.downgrade_rebuilt, Migration.down_eq_undo_layout⟩

/-- The migration fails on tables that were made without it, and leaves them and the stamp. -/
example :
    let f := SchemaFile.after [.createAll]
    (f.step .upgrade).2 = false ∧ (f.step .upgrade).1.stamped = false ∧
      (f.step .upgrade).1.portal = f.portal ∧ f.portal ≠ Catalog.empty := by
  decide

/-- Migrated, dropped and made again without the migration, the tables are taken back by it. -/
example :
    let f := SchemaFile.after [.upgrade, .dropAll, .upgrade, .createAll]
    f.stamped = true ∧ f.portal = Shape.declared.catalog ∧ (f.step .downgrade).2 = true ∧
      (f.step .downgrade).1.stamped = false ∧ (f.step .downgrade).1.portal = Catalog.empty := by
  decide

end AccountPortal

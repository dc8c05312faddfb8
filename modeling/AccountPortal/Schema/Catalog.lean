import AccountPortal.Schema.EngineTable
import AccountPortal.Text.Lower

/-!
# Catalogs

The tables and indexes of a database file, and the statements that create and drop them. Each
statement takes effect on its own, so that a list of statements that fails leaves what the ones
before the failure did. Main definitions: `Catalog`, `Statement`, `Catalog.execute`,
`Catalog.script`.
-/

namespace AccountPortal

inductive ColumnType where
  | varchar (size : Option Nat)
  | bigint
  | boolean
  | json
  /-- A type of the engine's own tables, as it is declared. -/
  | declared (text : String)
  deriving DecidableEq

def ColumnType.text : ColumnType → String
  | .varchar none => "VARCHAR"
  | .varchar (some n) => "VARCHAR(" ++ toString n ++ ")"
  | .bigint => "BIGINT"
  | .boolean => "BOOLEAN"
  | .json => "JSON"
  | .declared text => text

structure Column where
  name : String
  type : ColumnType
  notNull : Bool
  /-- Written by the database when a row does not give the column. -/
  default : Option String
  deriving DecidableEq

structure TableSpec where
  name : String
  columns : List Column
  key : List String
  unique : List (List String)
  deriving DecidableEq

structure IndexSpec where
  name : String
  table : String
  columns : List String
  deriving DecidableEq

structure Catalog where
  tables : List TableSpec
  indexes : List IndexSpec
  deriving DecidableEq

inductive Statement where
  | createTable (t : TableSpec)
  | createIndex (i : IndexSpec)
  | dropTable (name : String)
  | dropIndex (name : String)
  deriving DecidableEq

/-- What a script of creations starts its statements with. -/
def Statement.head : Statement → String
  | .createTable t => "CREATE TABLE " ++ t.name
  | .createIndex i => "CREATE INDEX " ++ i.name
  | .dropTable n => "DROP TABLE " ++ n
  | .dropIndex n => "DROP INDEX " ++ n

namespace Catalog

def empty : Catalog := ⟨[], []⟩

def hasTable (c : Catalog) (name : String) : Bool := c.tables.any (·.name == name)

def hasIndex (c : Catalog) (name : String) : Bool := c.indexes.any (·.name == name)

/-- A name is used once; an index needs its table, and goes with it. -/
def execute (c : Catalog) : Statement → Option Catalog
  | .createTable t =>
    if c.hasTable t.name || c.hasIndex t.name then none
    else some { c with tables := c.tables ++ [t] }
  | .createIndex i =>
    if c.hasIndex i.name || c.hasTable i.name || !c.hasTable i.table then none
    else some { c with indexes := c.indexes ++ [i] }
  | .dropTable n =>
    if c.hasTable n then
      some ⟨c.tables.filter (·.name != n), c.indexes.filter (·.table != n)⟩
    else none
  | .dropIndex n =>
    if c.hasIndex n then some { c with indexes := c.indexes.filter (·.name != n) } else none

/-- Runs statements up to the first that fails; tells whether all succeeded. -/
def script (c : Catalog) : List Statement → Catalog × Bool
  | [] => (c, true)
  | s :: rest =>
    match c.execute s with
    | some c' => c'.script rest
    | none => (c, false)

/-- The names of the tables in alphabetical order. -/
def tableNames (c : Catalog) : List String :=
  (c.tables.map (·.name)).mergeSort fun a b => decide (a ≤ b)

/-! ## Descriptions -/

/-- A column with its place in the key, counted from one, or zero. -/
structure ColumnView where
  column : Column
  keyPlace : Nat

inductive IndexOrigin where
  | created
  | key
  | unique
  deriving DecidableEq

def IndexOrigin.text : IndexOrigin → String
  | .created => "c"
  | .key => "pk"
  | .unique => "u"

structure IndexView where
  name : Option String
  isUnique : Bool
  origin : IndexOrigin
  columns : List String

def columnViews (t : TableSpec) : List ColumnView :=
  t.columns.map fun c => ⟨c, if t.key.contains c.name then t.key.idxOf c.name + 1 else 0⟩

/-- The key and every unique constraint have an index without a name. -/
def indexViews (c : Catalog) (t : TableSpec) : List IndexView :=
  ((c.indexes.filter (·.table == t.name)).map fun i => ⟨some i.name, false, .created, i.columns⟩)
    ++ (if t.key.isEmpty then [] else [⟨none, true, .key, t.key⟩])
    ++ t.unique.map fun cols => ⟨none, true, .unique, cols⟩

structure Description where
  columns : List ColumnView
  indexes : List IndexView

/-- A table of the engine: no column has to be there, and none is a key. -/
def ownTable (name : String) (columns : List (String × String)) : TableSpec where
  name := name
  columns := columns.map fun (n, type) => ⟨n, .declared type, false, none⟩
  key := []
  unique := []

/-- Names of tables are found in any case. -/
def find? (c : Catalog) (name : String) : Option TableSpec :=
  match EngineTable.columns? (asciiLower name) with
  | some columns => some (ownTable (asciiLower name) columns)
  | none => c.tables.find? fun t => asciiLower t.name == asciiLower name

/-- The columns by name, and the indexes by origin and columns; nothing for an unknown table. -/
def describe (c : Catalog) (name : String) : Description :=
  match c.find? name with
  | none => ⟨[], []⟩
  | some t =>
    ⟨(columnViews t).mergeSort fun a b => decide (a.column.name ≤ b.column.name),
      (c.indexViews t).mergeSort fun a b =>
        decide (a.origin.text < b.origin.text)
          || (a.origin.text == b.origin.text && !b.columns.lex a.columns)⟩

end Catalog

end AccountPortal

import AccountPortal.Form.Field
import AccountPortal.Portal.DatabaseUrl
import AccountPortal.Text.Lower

/-!
# Engines

What an engine makes of a database URL. There are drivers for database files only: one that waits
for its answers, and one that does not, which the portal needs. Options of the driver stand in the
query; all else in the query is for the file. Main definitions: `Driver.ofScheme`,
`DatabaseUrl.checkOptions`, `DatabaseUrl.isOnFile`, `DatabaseUrl.usable`.
-/

namespace AccountPortal

inductive Driver where
  | waiting
  | concurrent
  deriving DecidableEq

def enginePart? (name : String) : Option EnginePart :=
  if ["json", "dml"].contains name then some (.module name)
  else if ["BLOB", "BOOLEAN", "CHAR", "DATE", "DATETIME", "DECIMAL", "FLOAT", "INTEGER", "JSON",
      "NUMERIC", "REAL", "SMALLINT", "TEXT", "TIME", "TIMESTAMP", "VARCHAR", "Insert"].contains name
    then some (.type name)
  else if name == "insert" then some .function
  else if name == "dialect" then some (.type "SQLiteDialect_pysqlite")
  else none

/-- The drivers of the one database there are drivers for. -/
def Driver.ofName (name : String) : Except UrlFault Driver :=
  match name with
  | "aiosqlite" => .ok .concurrent
  | "pysqlite" | "base" => .ok .waiting
  | _ =>
    match enginePart? name with
    | some part => .error (.notDriver part)
    | none => .error .unusable

/-- A database, and after a plus sign its driver. -/
def Driver.ofScheme (scheme : List Char) : Except UrlFault Driver :=
  match (segments '+' scheme).map String.ofList with
  | ["sqlite"] => .ok .waiting
  | ["sqlite", name] => Driver.ofName name
  | _ :: _ :: _ :: _ => .error .surplusDrivers
  | _ => .error .unusable

/-! ## Options -/

inductive OptionKind where
  | flag
  | number
  | integer
  | text

def driverOptions : List (String × OptionKind) :=
  [("uri", .flag), ("timeout", .number), ("isolation_level", .text), ("detect_types", .integer),
   ("check_same_thread", .flag), ("cached_statements", .integer)]

/-- A flag without the blanks around it, in any case. -/
def optionFlag (given : String) : Except UrlFault Bool :=
  let word := lower (trim given)
  match flagWord? word with
  | some b => .ok b
  | none => .error (.notFlag word)

/-- What is given more than once is text or a flag. -/
def OptionKind.check : OptionKind → List String → Except UrlFault Unit
  | .flag, [given] => (optionFlag given).map fun _ => ()
  | .number, [given] => if Figure.isNumber given then .ok () else .error (.notNumber given)
  | .integer, [given] =>
    match Figure.integer given with
    | .ok _ => .ok ()
    | .error f => .error (.notInteger given f)
  | .number, _ :: _ => .error .repeatedNumber
  | .integer, _ :: _ => .error .repeatedInteger
  | _, _ => .ok ()

namespace DatabaseUrl

def checkOptions (u : DatabaseUrl) : Except UrlFault Unit :=
  driverOptions.forM fun (name, kind) => kind.check (u.values name)

/-- Whether the path is itself a location. A flag that is given more than once is set. -/
def isLocation (u : DatabaseUrl) : Bool :=
  match u.values "uri" with
  | [] => false
  | [given] => (optionFlag given).toOption.getD false
  | _ => true

/-- Whether the database is in memory, by the URL or by a location that says so. -/
def staysInMemory (u : DatabaseUrl) : Bool :=
  u.isInMemory || (u.isLocation && occursIn memoryPath (u.path.getD []))

/-- Whether the connections all lead to one file. A database in memory has one connection for all,
or is another one for each. -/
def isOnFile (url : String) : Bool :=
  -- the portal cannot be opened in memory by a URL that does not name it, as it is or encoded
  !(namesMemory url || url.toList.contains '%') ||
    match ofText url with
    | .ok u => !u.staysInMemory
    | .error _ => true

/-- The names that are no options of a driver, nor of the engine itself. -/
def fileOptions (u : DatabaseUrl) : List (List Char) :=
  (u.query.map (·.1)).filter fun name =>
    !(driverOptions.map (·.1.toList)).contains name && name != "plugins".toList

/-- There are no plugins. -/
def asksForPlugin (u : DatabaseUrl) : Bool := !(u.values "plugin").isEmpty

/-- The faults in the order they are met. -/
def usable (url : String) : Except UrlFault Unit := do
  let u ← ofText url
  if u.asksForPlugin then throw .unusable
  let driver ← Driver.ofScheme u.scheme
  if u.isRemote then throw .unusable
  u.checkOptions
  if u.isLocation && u.path.isNone && !u.fileOptions.isEmpty then throw .optionsWithoutPath
  if driver = .waiting then throw .unusable
  if u.isInMemory && !namesMemory url then throw .pooledMemory

end DatabaseUrl

end AccountPortal

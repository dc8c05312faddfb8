import AccountPortal.Number.Figure
import AccountPortal.Text.Percent
import AccountPortal.Text.Segments
import AccountPortal.Text.WordTable

/-!
# Database URLs

A scheme, then after two slashes a login, a host and a port, a path after a slash, and a query after
a question mark, each of which may be absent. Main definitions: `DatabaseUrl.ofText`,
`DatabaseUrl.values`, `DatabaseUrl.isInMemory`, `namesMemory`.
-/

namespace AccountPortal

structure DatabaseUrl where
  scheme : List Char
  user : List Char
  password : List Char
  host : List Char
  port : Int
  path : Option (List Char)
  /-- Names and values in the order they were given. -/
  query : List (List Char × List Char)
  deriving DecidableEq

/-- What a database offers under a name beside its drivers. -/
inductive EnginePart where
  | module (name : String)
  | type (name : String)
  | function
  deriving DecidableEq

inductive UrlFault where
  /-- No engine is known by the URL. -/
  | unusable
  /-- The scheme names a part of the engine where its driver should stand. -/
  | notDriver (part : EnginePart)
  /-- A scheme of more than a database and a driver. -/
  | surplusDrivers
  /-- A colon after the host and nothing after the colon. -/
  | emptyPort
  /-- The port, or an option that is an integer, is none. -/
  | notInteger (text : String) (fault : Figure.Fault)
  | notNumber (text : String)
  /-- The text without blanks, in lower case. -/
  | notFlag (text : String)
  | repeatedInteger
  | repeatedNumber
  /-- The path is a location with options of its own, and there is no path. -/
  | optionsWithoutPath
  /-- A database in memory has no pool, but the portal asks for one unless the URL names memory. -/
  | pooledMemory
  deriving DecidableEq

/-- What a URL says of a database in memory. -/
def memoryPath : List Char := ":memory:".toList

def occursIn (pattern : List Char) : List Char → Bool
  | [] => pattern.isEmpty
  | c :: rest => pattern.isPrefixOf (c :: rest) || occursIn pattern rest

/-- Whether the URL has the name of a database in memory anywhere in it. -/
def namesMemory (url : String) : Bool := occursIn memoryPath url.toList

namespace DatabaseUrl

/-! ## Parts -/

/-- What stands before the last occurrence and after it; nothing when there is none. -/
def cutAtLast (sep : Char) (cs : List Char) : Option (List Char × List Char) :=
  (cutAt sep cs.reverse).map fun (after, before) => (before.reverse, after.reverse)

/-- The text up to the first character of the class, and the rest from there. -/
def upTo (stop : Char → Bool) (cs : List Char) : List Char × List Char :=
  (cs.takeWhile (!stop ·), cs.dropWhile (!stop ·))

def isSchemeChar (c : Char) : Bool := isWordChar c || c == '+'

/-- User, password and rest. A login ends in an at sign: with a password, the first one after the
colon; without one, the last before a colon or a slash. -/
def login (cs : List Char) : List Char × List Char × List Char :=
  let (name, rest) := upTo (fun c => c == ':' || c == '/') cs
  let bare :=
    match cutAtLast '@' name with
    | some (user, more) => (user, [], more ++ rest)
    | none => ([], [], cs)
  match rest with
  | ':' :: more =>
    match cutAt '@' more with
    | some (password, rest) => (name, password, rest)
    | none => bare
  | _ => bare

/-- Host and rest. A host in brackets may have colons. -/
def hostOf (cs : List Char) : List Char × List Char :=
  let plain := upTo (fun c => c == '/' || c == ':' || c == '?') cs
  match cs with
  | '[' :: more =>
    let (inside, rest) := upTo (fun c => c == '/' || c == '?') more
    match cutAtLast ']' inside with
    | some (c :: host, after) => (c :: host, after ++ rest)
    | _ => plain
  | _ => plain

/-- Port and rest; no port is zero. -/
def portOf : List Char → Except UrlFault (Int × List Char)
  | ':' :: more =>
    match upTo (fun c => c == '/' || c == '?') more with
    | ([], _) => .error .emptyPort
    | (digits, rest) =>
      let text := String.ofList digits
      match Figure.integer text with
      | .ok n => .ok (n, rest)
      | .error f => .error (.notInteger text f)
  | cs => .ok (0, cs)

/-- Path and rest. -/
def pathOf : List Char → Option (List Char) × List Char
  | '/' :: more =>
    let (path, rest) := upTo (· == '?') more
    (some (percentDecodeChars path), rest)
  | cs => (none, cs)

/-! ## Query -/

/-- A name or a value of a query, where a plus sign is a space. -/
def queryText (cs : List Char) : List Char :=
  percentDecodeChars (cs.map fun c => if c = '+' then ' ' else c)

/-- Entries are cut at `&`; those without a value do not count. -/
def queryEntries (cs : List Char) : List (List Char × List Char) :=
  (segments '&' cs).filterMap fun entry =>
    match cutAt '=' entry with
    | some (name, c :: value) => some (queryText name, queryText (c :: value))
    | _ => none

/-- The query ends with its line. -/
def queryOf : List Char → List (List Char × List Char)
  | '?' :: more => queryEntries (more.takeWhile (· != '\n'))
  | _ => []

def values (u : DatabaseUrl) (name : String) : List String :=
  (u.query.filter (·.1 == name.toList)).map fun e => String.ofList e.2

/-! ## Whole URLs -/

/-- What follows the parts in their order is passed over. -/
def ofText (url : String) : Except UrlFault DatabaseUrl :=
  let (scheme, rest) := upTo (!isSchemeChar ·) url.toList
  match scheme, rest with
  | _ :: _, ':' :: '/' :: '/' :: rest =>
    let (user, password, rest) := login rest
    let (host, rest) := hostOf rest
    match portOf rest with
    | .error f => .error f
    | .ok (port, rest) =>
      let (path, rest) := pathOf rest
      .ok ⟨scheme, user, password, host, port, path, queryOf rest⟩
  | _, _ => .error .unusable

/-- No path, the path for it, or the one mode for it. -/
def isInMemory (u : DatabaseUrl) : Bool :=
  u.path.all (fun path => path.isEmpty || path == memoryPath) || u.values "mode" == ["memory"]

/-- Whether the URL says where a server is, or who calls it. A database file has neither. -/
def isRemote (u : DatabaseUrl) : Bool :=
  !u.user.isEmpty || !u.password.isEmpty || !u.host.isEmpty || u.port != 0

end DatabaseUrl

end AccountPortal

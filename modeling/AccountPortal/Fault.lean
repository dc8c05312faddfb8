import AccountPortal.Choice
import AccountPortal.Form.Issue
import AccountPortal.Text.Quoted

/-!
# Faults

Why a call on the portal fails, and the kinds of error that callers may raise themselves. Main
definitions: `Fault`, `Choice.coerce`, `ErrorKind.ancestors`, `RaisedError.ofCauses`,
`RaisedError.text`.
-/

namespace AccountPortal

inductive Fault where
  /-- A value that is no member of the set the label names. -/
  | unknownChoice (label : String) (value : Value)
  | transportsNotList
  /-- A create met a row with one of its keys. -/
  | taken (entity detail : String)
  | invalid (issues : List Issue)
  | schemaMissing
  /-- An integer that a column cannot hold. -/
  | integerOutOfRange

def collisionText (entity detail : String) : String :=
  entity ++ " already exists" ++ (if detail = "" then "" else ": " ++ detail)

/-- The text of the faults that the portal words itself. -/
def Fault.message? : Fault → Option String
  | .unknownChoice label value => some ("unknown " ++ label ++ ": " ++ value.written)
  | .transportsNotList => some "transports must be a list of strings"
  | .taken entity detail => some (collisionText entity detail)
  | _ => none

/-- The member a value names. -/
def Choice.coerce {α : Type} [Choice α] (label : String) (v : Value) : Except Fault α :=
  match Choice.ofValue? v with
  | some a => .ok a
  | none => .error (.unknownChoice label v)

/-! ## Kinds of error -/

inductive ErrorKind where
  | portal
  | configuration
  | constraint
  | malformed
  | notFound
  | expired
  | alreadyConsumed
  deriving DecidableEq

namespace ErrorKind

/-- The kind and those it is a case of, from the closest to the widest. -/
def ancestors : ErrorKind → List ErrorKind
  | .portal => [.portal]
  | .expired => [.expired, .notFound, .portal]
  | .alreadyConsumed => [.alreadyConsumed, .notFound, .portal]
  | k => [k, .portal]

/-- The text of an error that takes any causes: its one cause, or all of them in parentheses. -/
def causesText : List String → String
  | [] => ""
  | [cause] => cause
  | causes => "(" ++ String.intercalate ", " (causes.map quoted) ++ ")"

end ErrorKind

/-! ## Errors -/

/-- A collision names its entity and a detail that may be empty; any other kind takes any causes. -/
inductive RaisedError where
  | collision (entity detail : String)
  | general (kind : ErrorKind) (causes : List String)

/-- Why no error can be made of a list of causes. -/
inductive CauseFault where
  | noEntity
  | surplus (causes : Nat)

namespace RaisedError

def ofCauses : ErrorKind → List String → Except CauseFault RaisedError
  | .constraint, [] => .error .noEntity
  | .constraint, [entity] => .ok (.collision entity "")
  | .constraint, [entity, detail] => .ok (.collision entity detail)
  | .constraint, causes => .error (.surplus causes.length)
  | kind, causes => .ok (.general kind causes)

def kind : RaisedError → ErrorKind
  | .collision .. => .constraint
  | .general kind _ => kind

def text : RaisedError → String
  | .collision entity detail => collisionText entity detail
  | .general _ causes => ErrorKind.causesText causes

end RaisedError

end AccountPortal

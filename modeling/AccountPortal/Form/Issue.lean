/-!
# Issues

What is wrong with one named value of a form. Main definitions: `Complaint`, `Issue`, `Checked`;
`Checked.app` collects the issues of every part.
-/

namespace AccountPortal

inductive Complaint where
  | missing
  | notText
  | notFlag
  | unreadableFlag
  | notInteger
  | unreadableInteger
  /-- More characters than an integer may have, or a number beyond a word. -/
  | oversizedInteger
  /-- A number that is no integer. -/
  | fractional
  /-- An infinite number, or one that is none. -/
  | notFinite
  | notNumber
  | unreadableNumber
  | notPositive
  | belowOne
  /-- Not one of a field's own words. -/
  | notListed (words : List String)
  /-- Not a member of a set of choices. -/
  | notMember (words : List String)
  | unexpected
  /-- Production with the pepper that everyone knows. -/
  | knownPepper
  deriving DecidableEq

namespace Complaint

def code : Complaint → String
  | .missing => "missing"
  | .notText => "string_type"
  | .notFlag => "bool_type"
  | .unreadableFlag => "bool_parsing"
  | .notInteger => "int_type"
  | .unreadableInteger => "int_parsing"
  | .oversizedInteger => "int_parsing_size"
  | .fractional => "int_from_float"
  | .notFinite => "finite_number"
  | .notNumber => "float_type"
  | .unreadableNumber => "float_parsing"
  | .notPositive => "greater_than"
  | .belowOne => "greater_than_equal"
  | .notListed _ => "literal_error"
  | .notMember _ => "enum"
  | .unexpected => "extra_forbidden"
  | .knownPepper => "value_error"

/-- Words in quotes, the last one after "or". -/
def listed : List String → String
  | [] => ""
  | [w] => "'" ++ w ++ "'"
  | [v, w] => "'" ++ v ++ "' or '" ++ w ++ "'"
  | w :: rest => "'" ++ w ++ "', " ++ listed rest

def message : Complaint → String
  | .missing => "Field required"
  | .notText => "Input should be a valid string"
  | .notFlag => "Input should be a valid boolean"
  | .unreadableFlag => "Input should be a valid boolean, unable to interpret input"
  | .notInteger => "Input should be a valid integer"
  | .unreadableInteger => "Input should be a valid integer, unable to parse string as an integer"
  | .oversizedInteger => "Unable to parse input string as an integer, exceeded maximum size"
  | .fractional => "Input should be a valid integer, got a number with a fractional part"
  | .notFinite => "Input should be a finite number"
  | .notNumber => "Input should be a valid number"
  | .unreadableNumber => "Input should be a valid number, unable to parse string as a number"
  | .notPositive => "Input should be greater than 0"
  | .belowOne => "Input should be greater than or equal to 1"
  | .notListed words | .notMember words => "Input should be " ++ listed words
  | .unexpected => "Extra inputs are not permitted"
  | .knownPepper => "Value error, WALLET_SECRET_PEPPER must be set in production"

end Complaint

/-- A complaint about the value under a name, or about the form as a whole. -/
structure Issue where
  field : Option String
  complaint : Complaint
  deriving DecidableEq

/-! ## Collecting issues -/

abbrev Checked (α : Type) := Except (List Issue) α

namespace Checked

variable {α β : Type}

/-- Applies a checked function to a checked value; the issues of both are kept, in order. -/
def app (f : Checked (α → β)) (a : Checked α) : Checked β :=
  match f, a with
  | .ok f, .ok a => .ok (f a)
  | .ok _, .error e => .error e
  | .error e, .ok _ => .error e
  | .error e, .error e' => .error (e ++ e')

def issues : Checked α → List Issue
  | .ok _ => []
  | .error e => e

@[simp] theorem app_ok_ok (f : α → β) (a : α) : app (.ok f) (.ok a) = .ok (f a) := rfl

theorem app_eq_ok_iff {f : Checked (α → β)} {a : Checked α} {b : β} :
    app f a = .ok b ↔ ∃ g x, f = .ok g ∧ a = .ok x ∧ b = g x := by
  cases f <;> cases a <;> simp [app, eq_comm]

end Checked

end AccountPortal

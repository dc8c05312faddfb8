import AccountPortal.Choice
import AccountPortal.Form.Issue
import AccountPortal.Number.Word
import AccountPortal.Value

/-!
# Fields

How a value is read as text, a flag, an integer, a number or a choice, and how the entries of a
form are read into a structure, all issues collected. Main definitions: `readText`, `readFlag`,
`readInteger`, `readNumber`, `readMember`, `required`, `optional`.
-/

namespace AccountPortal

abbrev Reader (α : Type) := Value → Except Complaint α

/-! ## Readers -/

def readText : Reader String
  | .text s => .ok s
  | _ => .error .notText

/-- The words for a flag, in lower case. -/
def flagWord? (s : String) : Option Bool :=
  if ["0", "off", "f", "false", "n", "no"].contains s then some false
  else if ["1", "on", "t", "true", "y", "yes"].contains s then some true
  else none

/-- A number as an integer. The least word is none of them. -/
def wholeNumber (x : Binary64) : Except Complaint Int :=
  match x.toInt? with
  | some n => if -wordBound < n ∧ n < wordBound then .ok n else .error .oversizedInteger
  | none => .error (if x.isFinite then .fractional else .notFinite)

def integerFlag : Int → Except Complaint Bool
  | 0 => .ok false
  | 1 => .ok true
  | _ => .error .unreadableFlag

/-- Flags, zero and one, and words in any case without blanks around them. An integer beyond a word
is no kind of flag at all, and neither is a number that is no integer. -/
def readFlag : Reader Bool
  | .flag b => .ok b
  | .int n => if fitsWord n then integerFlag n else .error .notFlag
  | .number x =>
    match wholeNumber x with
    | .ok n => integerFlag n
    | .error _ => .error .notFlag
  | .text s =>
    match flagWord? (Numeral.lowerAscii s.toList) with
    | some b => .ok b
    | none => .error .unreadableFlag
  | _ => .error .notFlag

def readIntegerText (s : String) : Except Complaint Int :=
  if Numeral.isOverlong s.toList then .error .oversizedInteger
  else match Numeral.integer? s.toList with
    | some n => .ok n
    | none => .error .unreadableInteger

/-- Integers, numbers that are one, flags as zero and one, and integer numerals. -/
def readInteger : Reader Int
  | .int n => .ok n
  | .number x => wholeNumber x
  | .flag b => .ok (if b then 1 else 0)
  | .text s => readIntegerText s
  | _ => .error .notInteger

/-- Numbers, and integers, flags and numerals rounded to binary. -/
def readNumber : Reader Binary64
  | .number x => .ok x
  | .int n =>
    match Binary64.ofInt? n with
    | some x => .ok x
    | none => .error .notNumber
  | .flag b => .ok (if b then .finite false (Nat.pow 2 52) (-52) else .zero)
  | .text s =>
    match Numeral.decimal? s.toList with
    | some d => .ok (.ofDecimal d)
    | none => .error .unreadableNumber
  | _ => .error .notNumber

/-- The words of a set of choices. -/
def choiceWords (α : Type) [Choice α] : List String := (Choice.all : List α).map Choice.text

def readMember {α : Type} [Choice α] : Reader α := fun v =>
  match Choice.ofValue? v with
  | some a => .ok a
  | none => .error (.notMember (choiceWords α))

/-- A field's own words, with their own complaint. -/
def readListed {α : Type} [Choice α] : Reader α := fun v =>
  match Choice.ofValue? v with
  | some a => .ok a
  | none => .error (.notListed (choiceWords α))

/-- Nothing is read as nothing. -/
def orNull {α : Type} (read : Reader α) : Reader (Option α)
  | .null => .ok none
  | v => (read v).map some

/-- Refuses what the test does not pass. -/
def bounded {α : Type} (read : Reader α) (ok : α → Bool) (complaint : Complaint) : Reader α
  | v =>
    match read v with
    | .ok a => if ok a then .ok a else .error complaint
    | .error c => .error c

/-! ## Entries of a form -/

def checkField {α : Type} (read : Reader α) (name : String) (v : Value) : Checked α :=
  match read v with
  | .ok a => .ok a
  | .error c => .error [⟨some name, c⟩]

def required {α : Type} (form : Fields Value) (name : String) (read : Reader α) : Checked α :=
  match form.get? name with
  | some v => checkField read name v
  | none => .error [⟨some name, .missing⟩]

/-- An absent entry is read as nothing. -/
def optional {α : Type} (form : Fields Value) (name : String) (read : Reader α) :
    Checked (Option α) :=
  match form.get? name with
  | some v => checkField (orNull read) name v
  | none => .ok none

end AccountPortal

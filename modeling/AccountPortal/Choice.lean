import AccountPortal.Value

/-!
# Choices

The closed sets of words that the portal knows: node kinds, identity providers, passkey ceremonies,
authenticator transports and the states of an enrollment. Main definitions: `Choice.ofValue?`,
`enrollmentState`, `deriveActive`.
-/

namespace AccountPortal

/-- A finite set in its order of declaration, each member with its word. -/
class Choice (α : Type) where
  all : List α
  text : α → String

namespace Choice

variable {α : Type} [Choice α]

/-- The member with exactly this word. -/
def ofText? (s : String) : Option α := all.find? fun a => text a == s

def ofValue? : Value → Option α
  | .text s => ofText? s
  | _ => none

def value (a : α) : Value := .text (text a)

end Choice

/-! ## The sets -/

inductive NodeKind where
  | agent
  | coordinator
  deriving DecidableEq, Inhabited

instance : Choice NodeKind where
  all := [.agent, .coordinator]
  text
    | .agent => "agent"
    | .coordinator => "coordinator"

inductive Provider where
  | google
  | apple
  | microsoft
  deriving DecidableEq, Inhabited

instance : Choice Provider where
  all := [.google, .apple, .microsoft]
  text
    | .google => "google"
    | .apple => "apple"
    | .microsoft => "microsoft"

inductive PasskeyFlow where
  | registration
  | authentication
  deriving DecidableEq, Inhabited

instance : Choice PasskeyFlow where
  all := [.registration, .authentication]
  text
    | .registration => "registration"
    | .authentication => "authentication"

inductive Transport where
  | usb
  | nfc
  | ble
  | smartCard
  | hybrid
  | internal
  | cable
  deriving DecidableEq, Inhabited

instance : Choice Transport where
  all := [.usb, .nfc, .ble, .smartCard, .hybrid, .internal, .cable]
  text
    | .usb => "usb"
    | .nfc => "nfc"
    | .ble => "ble"
    | .smartCard => "smart-card"
    | .hybrid => "hybrid"
    | .internal => "internal"
    | .cable => "cable"

/-! ## Enrollment states -/

inductive EnrollmentState where
  | pending
  | awaitingOther
  | active
  deriving DecidableEq, Inhabited

instance : Choice EnrollmentState where
  all := [.pending, .awaitingOther, .active]
  text
    | .pending => "pending"
    | .awaitingOther => "awaiting_other"
    | .active => "active"

/-- Active with both marks, awaiting the other with one, pending with none. -/
def enrollmentState (approved emailVerified : Bool) : EnrollmentState :=
  match approved, emailVerified with
  | true, true => .active
  | false, false => .pending
  | _, _ => .awaitingOther

def deriveActive (approved emailVerified : Bool) : Bool := approved && emailVerified

theorem enrollmentState_eq_active_iff (approved emailVerified : Bool) :
    enrollmentState approved emailVerified = .active ↔
      deriveActive approved emailVerified = true := by
  cases approved <;> cases emailVerified <;> decide

end AccountPortal

import AccountPortal.Form.Field
import AccountPortal.Record.Row

/-!
# Validation patches

What a node tells of itself when it is validated. A field that is not given keeps the stored value,
a field given as nothing clears it, and no other field may be given. Main definitions:
`ValidationPatch.ofForm`, `ValidationPatch.apply`.
-/

namespace AccountPortal

/-- Each field is absent, or given with a value or with nothing. -/
structure ValidationPatch where
  sourceIp : Option (Option String)
  countryCode : Option (Option String)
  vpnDetected : Option (Option Bool)
  deriving DecidableEq

namespace ValidationPatch

def empty : ValidationPatch := ⟨none, none, none⟩

def fieldNames : List String := ["source_ip", "country_code", "vpn_detected"]

/-- A field that may be absent or nothing. -/
def given {α : Type} (form : Fields Value) (name : String) (read : Reader α) :
    Checked (Option (Option α)) :=
  match form.get? name with
  | some v => (checkField (orNull read) name v).map some
  | none => .ok none

/-- The fields that no patch has, in the order they were given. -/
def surplus (form : Fields Value) : List Issue :=
  (form.filter fun e => !fieldNames.contains e.1).map fun e => ⟨some e.1, .unexpected⟩

def ofForm (form : Fields Value) : Checked ValidationPatch :=
  let patch := Checked.app (.app (.app (.ok ValidationPatch.mk)
    (given form "source_ip" readText))
    (given form "country_code" readText))
    (given form "vpn_detected" readFlag)
  match patch, surplus form with
  | .ok p, [] => .ok p
  | c, extra => .error (c.issues ++ extra)

def apply (p : ValidationPatch) (e : Enrollment) : Enrollment :=
  { e with
    lastIp := p.sourceIp.getD e.lastIp
    lastCountryCode := p.countryCode.getD e.lastCountryCode
    lastVpnDetected := p.vpnDetected.getD e.lastVpnDetected }

/-- The columns that the patch writes. -/
def columns (p : ValidationPatch) : Fields Value :=
  [("last_ip", p.sourceIp.map Value.optText),
    ("last_country_code", p.countryCode.map Value.optText),
    ("last_vpn_detected", p.vpnDetected.map Value.optFlag)].filterMap fun e => e.2.map (e.1, ·)

/-- The names of the fields that were given, in alphabetical order. -/
def names (p : ValidationPatch) : List String :=
  [("country_code", p.countryCode.isSome), ("source_ip", p.sourceIp.isSome),
    ("vpn_detected", p.vpnDetected.isSome)].filterMap fun e => if e.2 then some e.1 else none

end ValidationPatch

end AccountPortal

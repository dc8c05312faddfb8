import AccountPortal.Fault

/-!
# Transports

A request names transports in any order and as often as it likes; they are kept once each in the
order of declaration. Main definition: `canonicalTransports`.
-/

namespace AccountPortal

/-- Every item as a transport; the first that is none is the fault. -/
def coerceTransports : List Value → Except Fault (List Transport)
  | [] => .ok []
  | v :: rest =>
    match Choice.coerce "passkey transport" v with
    | .ok t => (coerceTransports rest).map (t :: ·)
    | .error e => .error e

/-- The members of a list, once each, in the order of declaration. -/
def inOrder (ts : List Transport) : List Transport :=
  (Choice.all : List Transport).filter ts.contains

def canonicalItems (items : List Value) : Except Fault (Option (List Transport)) :=
  (coerceTransports items).map fun ts => some (inOrder ts)

/-- A record stands for the list of its names; text and single values are no list. -/
def canonicalTransports : Value → Except Fault (Option (List Transport))
  | .null => .ok none
  | .list items => canonicalItems items
  | .record fields => canonicalItems (fields.map fun f => .text f.1)
  | _ => .error .transportsNotList

end AccountPortal

/-!
# Logging

What the portal reports while it works, and the set-up of a process that shows it. Main
definitions: `LogEntry`, `LogLevel.ofText?`, `LogSetup.configure`.
-/

namespace AccountPortal

inductive LogLevel where
  | unset
  | debug
  | info
  | warning
  | error
  | critical
  deriving DecidableEq

namespace LogLevel

def severity : LogLevel → Nat
  | .unset => 0
  | .debug => 10
  | .info => 20
  | .warning => 30
  | .error => 40
  | .critical => 50

def text : LogLevel → String
  | .unset => "NOTSET"
  | .debug => "DEBUG"
  | .info => "INFO"
  | .warning => "WARNING"
  | .error => "ERROR"
  | .critical => "CRITICAL"

/-- Upper case as far as the names of levels need it: beside a to z, the dotless i and the long s
are the only letters whose upper case is one letter of those names. -/
def upperChar (c : Char) : Char :=
  if 'a' ≤ c ∧ c ≤ 'z' then Char.ofNat (c.toNat - 32)
  else if c = 'ı' then 'I'
  else if c = 'ſ' then 'S'
  else c

/-- Reads the name of a level in any case; two levels have a second name. -/
def ofText? (s : String) : Option LogLevel :=
  let name := String.ofList (s.toList.map upperChar)
  if name = "WARN" then some .warning
  else if name = "FATAL" then some .critical
  else [unset, debug, info, warning, error, critical].find? (·.text == name)

end LogLevel

/-- The part of the portal that reports. -/
inductive LogSource where
  | database
  | accounts
  | sessions
  | emailTokens
  | oauth
  | enrollments
  | wallets
  | passkeys
  deriving DecidableEq

structure LogEntry where
  level : LogLevel
  source : LogSource
  message : String
  deriving DecidableEq

/-! ## Set-up -/

/-- One handler on the portal's own logger, which passes nothing on, and a quieter database. -/
structure LogSetup where
  level : LogLevel
  handlers : Nat
  propagate : Bool
  databaseLevel : LogLevel

/-- The level defaults to info; an unknown name leaves the set-up alone. -/
def LogSetup.configure (level : String) : Option LogSetup :=
  (LogLevel.ofText? level).map fun l => ⟨l, 1, false, .warning⟩

end AccountPortal

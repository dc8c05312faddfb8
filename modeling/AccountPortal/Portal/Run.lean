import AccountPortal.Portal.Engine
import AccountPortal.Portal.Prepared

/-!
# The portal

The settings, a clock, the tables, which are gone while the schema is dropped, and the idle
connections to the database. A run is a list of steps: calls, races of callers that make one call,
moves of the clock, and changes of the schema. Races are held on database files, where callers wait
for one another, however long that takes: where they have no connections of their own, what their
statements do to each other is left out. Main definitions: `Portal.perform`, `Portal.step`,
`Portal.run`.
-/

namespace AccountPortal

structure Portal where
  settings : Settings
  clock : Int
  tables : Option Tables
  /-- The next to be taken is in front. -/
  connections : List Connection

namespace Portal

/-- A portal on a new database, migrated on the first connection. -/
def fresh (settings : Settings) (clock : Int) : Portal := ⟨settings, clock, some .empty, [.fresh]⟩

def context (p : Portal) : Context := ⟨p.settings, p.clock⟩

/-! ## Opening -/

inductive OpenFault where
  | settings (issues : List Issue)
  | url (fault : UrlFault)

def dialect : String := "sqlite"

def usable (settings : Settings) : Except OpenFault Settings :=
  match DatabaseUrl.usable settings.databaseUrl with
  | .ok () => .ok settings
  | .error f => .error (.url f)

/-- The settings of a portal that can be opened. -/
def openSettings (env : Fields String) : Except OpenFault Settings :=
  match Settings.ofEnvironment env with
  | .ok s => usable s
  | .error issues => .error (.settings issues)

/-- No portal when the environment names no database. -/
def ofEnvironment (env : Fields String) : Except OpenFault (Option Settings) :=
  match databaseUrl? env with
  | none => .ok none
  | some _ => (openSettings env).map some

/-! ## Calls -/

/-- The tables after a call that succeeds, with the answer. -/
def perform (p : Portal) (conn : Connection) (c : Call) : Except Fault (Option Tables × Answer) :=
  match c.plan p.context with
  | .error f => .error f
  | .ok plan => plan.execute (conn.knows c) p.tables

structure Reply where
  outcome : Except Fault Answer
  log : List LogEntry

def reply (p : Portal) (c : Call) (out : Except Fault Answer) : Reply :=
  ⟨out, c.report p.context out⟩

/-- The tables after a call, and its outcome. A call that fails leaves the tables as they were. -/
def attempt (p : Portal) (conn : Connection) (c : Call) : Option Tables × Except Fault Answer :=
  match p.perform conn c with
  | .ok (tables, a) => (tables, .ok a)
  | .error f => (p.tables, .error f)

/-- Every transaction takes its turn of the connections. -/
def call (p : Portal) (c : Call) : Portal × Reply :=
  let (tables, out) := p.attempt (.next p.connections) c
  ({ p with
      tables := tables
      connections := (c.transactions p.context out).foldl Connection.turn p.connections },
    p.reply c out)

/-! ## Races -/

/-- Callers need connections of their own to make calls at once. -/
def holdsRaces (p : Portal) : Bool := DatabaseUrl.isOnFile p.settings.databaseUrl

/-- The connections that stay open between calls. The size of the pool is not asked for where the
URL has the name of memory in it. -/
def poolSize (s : Settings) : Nat := if namesMemory s.databaseUrl then 5 else s.poolSize.toNat

/-- How many connections beyond those may be open during calls. -/
def overflow : Nat := 10

/-- The connection of the next caller of a race, and what is then idle and what has been used: an
idle one, or a new one while there may be more, or else the one that was used first. -/
def draw (limit : Nat) : List Connection → List Connection →
    Connection × List Connection × List Connection
  | conn :: idle, used => (conn, idle, used)
  | [], conn :: used =>
    if limit ≤ used.length + 1 then (conn, [], used) else (.fresh, [], conn :: used)
  | [], [] => (.fresh, [], [])

/-- The callers of a race, one after another, each on a connection of its own. -/
def callers (p : Portal) (c : Call) : Nat → List Connection → Portal × List Reply
  | 0, used =>
    ({ p with connections := (p.connections ++ used).take (poolSize p.settings) }, [])
  | n + 1, used =>
    let (conn, idle, rest) := draw (poolSize p.settings + overflow) p.connections used
    let (tables, out) := p.attempt conn c
    let (idle, used) :=
      match c.transactions p.context out with
      | [] => (p.connections, used)
      | ts => (idle, rest ++ [conn.prepare ts.flatten])
    let (p', rs) := callers { p with tables := tables, connections := idle } c n used
    (p', p.reply c out :: rs)

/-- The same call `n` times at once. -/
def race (p : Portal) (n : Nat) (c : Call) : Portal × List Reply := p.callers c n []

/-! ## Schema -/

/-- Tables that exist are kept. -/
def migrate (p : Portal) : Portal × List LogEntry :=
  ({ p with
      tables := some (p.tables.getD .empty)
      connections := Connection.turn p.connections [] },
    [⟨.info, .database, "Portal schema ensured on " ++ dialect⟩])

def dropSchema (p : Portal) : Portal :=
  { p with tables := none, connections := Connection.turn p.connections [] }

/-- Every table that has rows, with its rows by their keys. -/
def state (p : Portal) : Except Fault (List (TableName × List (Fields Value))) :=
  match p.tables with
  | none => .error .schemaMissing
  | some t =>
    .ok (((Choice.all : List TableName).map fun n => (n, t.contents n)).filter (!·.2.isEmpty))

/-! ## Runs -/

inductive Step where
  | advance (ms : Int)
  | call (c : Call)
  | race (n : Nat) (c : Call)
  | migrate
  | dropSchema
  | state

inductive Outcome where
  | clock (t : Int)
  | called (outcome : Except Fault Answer)
  | raced (outcomes : List (Except Fault Answer))
  /-- No race is held on a database in memory. -/
  | unheld
  | done
  | state (s : Except Fault (List (TableName × List (Fields Value))))

structure Entry where
  outcome : Outcome
  log : List LogEntry

/-- A form that is refused is refused to the first caller of a race, and the race ends there. -/
def step (p : Portal) : Step → Portal × Entry
  | .advance ms =>
    let p' := { p with clock := p.clock + ms }
    (p', ⟨.clock p'.clock, []⟩)
  | .call c =>
    let (p', r) := p.call c
    (p', ⟨.called r.outcome, r.log⟩)
  | .race n c =>
    match n, c.refusal? with
    | _ + 1, some f => (p, ⟨.called (.error f), []⟩)
    | n, _ =>
      if p.holdsRaces then
        let (p', rs) := p.race n c
        (p', ⟨.raced (rs.map (·.outcome)), rs.flatMap (·.log)⟩)
      else (p, ⟨.unheld, []⟩)
  | .migrate =>
    let (p', log) := p.migrate
    (p', ⟨.done, log⟩)
  | .dropSchema => (p.dropSchema, ⟨.done, []⟩)
  | .state =>
    ({ p with connections := Connection.turn p.connections [] }, ⟨.state p.state, []⟩)

def run (p : Portal) : List Step → Portal × List Entry
  | [] => (p, [])
  | s :: rest =>
    let (p', e) := p.step s
    let (p'', es) := run p' rest
    (p'', e :: es)

/-! ## Outcomes of races -/

/-- The answers of the callers that went away with something. -/
def wins (outcomes : List (Except Fault Answer)) : List Answer :=
  outcomes.filterMap fun
    | .ok a => if a.isLoss then none else some a
    | .error _ => none

/-- The number of callers that went away with nothing. -/
def losses (outcomes : List (Except Fault Answer)) : Nat :=
  outcomes.countP fun
    | .ok a => a.isLoss
    | .error _ => false

def faults (outcomes : List (Except Fault Answer)) : List Fault :=
  outcomes.filterMap fun
    | .ok _ => none
    | .error f => some f

end Portal

end AccountPortal

import AccountPortal.Fault
import AccountPortal.Log
import AccountPortal.Number.Word
import AccountPortal.Record.Basic
import AccountPortal.Settings

/-!
# Plans

A call is answered in one transaction: a plan names the integers it binds to columns and what it
does to the tables it works on. A plan fails without effect when the tables are gone, when an
integer does not fit a column, or by its own fault, in this order; a statement that is prepared
meets its integers before it meets the tables. Main definitions: `Plan`, `Plan.execute`, `Plan.on`.
-/

namespace AccountPortal

/-- What a call may look at beside the tables. -/
structure Context where
  settings : Settings
  clock : Int

/-- The explicit expiry, or the clock and the lifetime added. -/
def Context.expiry (ctx : Context) (given : Option Int) (lifetime : Int) : Int :=
  given.getD (ctx.clock + lifetime)

inductive Answer where
  | nothing
  | flag (b : Bool)
  | count (n : Nat)
  | moment (t : Int)
  | owner (userId : Option String)
  | record (r : Option Record)
  | records (rs : List Record)
  /-- A node that is known, and a token that is not the one it was registered with. -/
  | mismatch
  /-- The account marked as verified, with the number of its nodes. -/
  | verified (user : Option User) (nodes : Nat)
  /-- The rows removed from the four ledgers. -/
  | purged (sessions emailTokens oauthStates passkeyChallenges : Nat)
  deriving DecidableEq

/-- Whether a caller of a race goes away with nothing. -/
def Answer.isLoss : Answer → Bool
  | .nothing | .flag false | .owner none | .record none | .mismatch | .verified none _ => true
  | _ => false

/-- What a call asks of tables `σ`: an answer known without them, or a transaction. -/
inductive Plan (σ : Type) where
  | answered (a : Answer)
  | transaction (integers : List Int) (body : σ → Except Fault (σ × Answer))

namespace Plan

variable {σ τ : Type}

/-- A transaction that changes nothing. -/
def query (read : σ → Answer) : Plan σ := .transaction [] fun s => .ok (s, read s)

/-- A transaction that always succeeds. -/
def update (integers : List Int) (write : σ → σ × Answer) : Plan σ :=
  .transaction integers fun s => .ok (write s)

/-- A plan on one part of the tables, carried out on all of them. -/
def on (get : τ → σ) (set : σ → τ → τ) : Plan σ → Plan τ
  | .answered a => .answered a
  | .transaction integers body => .transaction integers fun t =>
    (body (get t)).map fun (s, a) => (set s t, a)

/-- There are no tables while the schema is dropped: a statement cannot be prepared then, and one
that was prepared before cannot be carried out. -/
def execute (prepared : Bool) : Plan σ → Option σ → Except Fault (Option σ × Answer)
  | .answered a, tables => .ok (tables, a)
  | .transaction integers _, none =>
    if prepared && !integers.all fitsWord then .error .integerOutOfRange
    else .error .schemaMissing
  | .transaction integers body, some s =>
    if integers.all fitsWord then (body s).map fun (s, a) => (some s, a)
    else .error .integerOutOfRange

end Plan

/-! ## Tables as lists of rows -/

namespace Rows

variable {α : Type}

/-- Changes every row that passes the test. -/
def change (p : α → Bool) (f : α → α) (rows : List α) : List α :=
  rows.map fun r => if p r then f r else r

def remove (p : α → Bool) (rows : List α) : List α := rows.filter fun r => !p r

/-- Changes the rows that pass the test, or adds a row when there is none. -/
def upsert (p : α → Bool) (f : α → α) (new : α) (rows : List α) : List α :=
  if rows.any p then change p f rows else rows ++ [new]

/-- Removes the rows that pass the test and counts them. -/
def purge (p : α → Bool) (rows : List α) : List α × Answer :=
  (remove p rows, .count (rows.countP p))

end Rows

/-- Texts by their UTF-8 bytes. -/
def textLe (a b : String) : Bool := decide (utf8 a ≤ utf8 b)

end AccountPortal

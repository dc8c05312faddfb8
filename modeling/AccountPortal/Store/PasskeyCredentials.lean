import AccountPortal.Store.Plan
import AccountPortal.Transports

/-!
# Passkey credentials

A credential that is registered again gets its new data and keeps its date; only its owner removes
it. Main definitions: `PasskeyCredentials.Request`, `PasskeyCredentials.plan`,
`PasskeyCredentials.report`.
-/

namespace AccountPortal.PasskeyCredentials

/-- What a ceremony registers. -/
structure Registration where
  credentialId : String
  userId : String
  webauthnUserId : String
  publicKey : String
  counter : Int
  deviceType : String
  backedUp : Bool

inductive Request where
  | register (r : Registration) (transports : Value)
  | setCounter (credentialId : String) (counter : Int)
  | get (credentialId : String)
  | listForUser (userId : String)
  | remove (credentialId userId : String)

/-- An empty list of transports is kept as nothing. -/
def fresh (r : Registration) (transports : Option (List Transport)) (now : Int) :
    PasskeyCredential where
  credentialId := r.credentialId
  userId := r.userId
  webauthnUserId := r.webauthnUserId
  publicKey := r.publicKey
  counter := r.counter
  deviceType := r.deviceType
  backedUp := r.backedUp
  transports := transports.filter (!·.isEmpty)
  createdAt := now
  lastUsedAt := some now

def renewed (new old : PasskeyCredential) : PasskeyCredential :=
  { new with credentialId := old.credentialId, createdAt := old.createdAt }

def find? (credentialId : String) (rows : List PasskeyCredential) : Option PasskeyCredential :=
  rows.find? (·.credentialId == credentialId)

def answer (credentialId : String) (rows : List PasskeyCredential) : Answer :=
  .record ((find? credentialId rows).map PasskeyCredential.record)

def register (new : PasskeyCredential) (rows : List PasskeyCredential) :
    List PasskeyCredential × Answer :=
  let rows := Rows.upsert (·.credentialId == new.credentialId) (renewed new) new rows
  (rows, answer new.credentialId rows)

def setCounter (credentialId : String) (counter now : Int) (rows : List PasskeyCredential) :
    List PasskeyCredential × Answer :=
  (Rows.change (·.credentialId == credentialId)
    (fun r => { r with counter := counter, lastUsedAt := some now }) rows,
    .flag (rows.any (·.credentialId == credentialId)))

/-- The latest first, and credentials of one time by their ids. -/
def listedBefore (a b : PasskeyCredential) : Bool :=
  b.createdAt < a.createdAt || (a.createdAt == b.createdAt && textLe a.credentialId b.credentialId)

def listForUser (userId : String) (rows : List PasskeyCredential) : List PasskeyCredential :=
  (rows.filter (·.userId == userId)).mergeSort listedBefore

def remove (credentialId userId : String) (rows : List PasskeyCredential) :
    List PasskeyCredential × Answer :=
  let owned (r : PasskeyCredential) : Bool := r.credentialId == credentialId && r.userId == userId
  (Rows.remove owned rows, .flag (rows.any owned))

def plan (ctx : Context) : Request → Except Fault (Plan (List PasskeyCredential))
  | .register r transports =>
    (canonicalTransports transports).map fun ts =>
      .update [r.counter, ctx.clock] (register (fresh r ts ctx.clock))
  | .setCounter id counter =>
    .ok (.update [counter, ctx.clock] (setCounter id counter ctx.clock))
  | .get id => .ok (.query (answer id))
  | .listForUser user =>
    .ok (.query fun rows => .records ((listForUser user rows).map PasskeyCredential.record))
  | .remove id user => .ok (.update [] (remove id user))

def report : Request → Except Fault Answer → List LogEntry
  | .register r _, .ok _ =>
    [⟨.info, .passkeys, "Passkey stored for " ++ r.userId ++ " (" ++ r.deviceType ++ ")"⟩]
  | .remove _ user, .ok (.flag true) => [⟨.info, .passkeys, "Passkey removed for " ++ user⟩]
  | _, _ => []

end AccountPortal.PasskeyCredentials

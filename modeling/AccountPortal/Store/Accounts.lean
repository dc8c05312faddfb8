import AccountPortal.Credential.Email
import AccountPortal.Store.Enrollments

/-!
# Accounts

Users with unique ids and unique normalised email addresses. Verifying a user's email also tells the
user's nodes, in the same transaction. Main definitions: `Accounts.Request`, `Accounts.plan`,
`Accounts.report`.
-/

namespace AccountPortal.Accounts

inductive Request where
  | create (userId email : String) (passwordHash displayName : Option String) (emailVerified : Bool)
  | get (userId : String)
  | getByEmail (email : String)
  | verifyEmail (userId : String)
  | setPasswordHash (userId passwordHash : String)
  | setDisplayName (userId : String) (displayName : Option String)

/-! ## Statements -/

/-- A user created as verified is verified from the start. -/
def fresh (userId email : String) (passwordHash displayName : Option String) (emailVerified : Bool)
    (now : Int) : User where
  userId := userId
  email := normalizeEmail email
  emailVerified := emailVerified
  passwordHash := passwordHash
  displayName := displayName
  createdAt := now
  verifiedAt := if emailVerified then some now else none

def insert (new : User) (users : List User) : Except Fault (List User × Answer) :=
  if users.any fun u => u.userId == new.userId || u.email == new.email then
    .error (.taken "user" "user id or email already registered")
  else .ok (users ++ [new], .record (some new.record))

def find? (userId : String) (users : List User) : Option User := users.find? (·.userId == userId)

/-- The stored address is folded as the database folds it, the given one is normalised. -/
def findByEmail? (email : String) (users : List User) : Option User :=
  users.find? fun u => asciiLower u.email == normalizeEmail email

/-- The time of the first verification is kept. -/
def verified (now : Int) (u : User) : User :=
  { u with emailVerified := true, verifiedAt := u.verifiedAt.or (some now) }

/-- An unknown user leaves every node alone, also those that name the id as their owner. -/
def verifyEmail (userId : String) (now : Int) (users : List User) (nodes : List Enrollment) :
    (List User × List Enrollment) × Answer :=
  match find? userId users with
  | none => ((users, nodes), .verified none 0)
  | some u =>
    let (nodes, n) := Enrollments.verifyOwner userId now nodes
    ((Rows.change (·.userId == userId) (verified now) users, nodes),
      .verified (some (verified now u)) n)

def change (userId : String) (f : User → User) (users : List User) : List User × Answer :=
  (Rows.change (·.userId == userId) f users, .flag (users.any (·.userId == userId)))

/-! ## Plans -/

/-- A plan on the users alone. -/
def onUsers : Plan (List User) → Plan (List User × List Enrollment) :=
  Plan.on Prod.fst fun users s => (users, s.2)

def plan (ctx : Context) : Request → Except Fault (Plan (List User × List Enrollment))
  | .create id email hash name verified =>
    .ok (onUsers (.transaction [ctx.clock] (insert (fresh id email hash name verified ctx.clock))))
  | .get id => .ok (onUsers (.query fun users => .record ((find? id users).map User.record)))
  | .getByEmail email =>
    .ok (onUsers (.query fun users => .record ((findByEmail? email users).map User.record)))
  | .verifyEmail id => .ok (.update [ctx.clock] fun s => verifyEmail id ctx.clock s.1 s.2)
  | .setPasswordHash id hash =>
    .ok (onUsers (.update [] (change id fun u => { u with passwordHash := some hash })))
  | .setDisplayName id name =>
    .ok (onUsers (.update [] (change id fun u => { u with displayName := name })))

def report : Request → Except Fault Answer → List LogEntry
  | .create id .., .error (.taken ..) => [⟨.info, .accounts, "Rejected duplicate account " ++ id⟩]
  | .verifyEmail id, .ok (.verified none _) =>
    [⟨.debug, .accounts, "Verification for unknown user " ++ id⟩]
  | .verifyEmail id, .ok (.verified (some _) n) =>
    [⟨.info, .accounts, "User " ++ id ++ " email verified; " ++ toString n ++ " node(s) updated"⟩]
  | _, _ => []

end AccountPortal.Accounts

import AccountPortal.Credential.Password
import AccountPortal.Credential.Token
import AccountPortal.Store.Plan
import AccountPortal.Store.ValidationPatch

/-!
# Node enrollments

A node is active when it is approved and its owner's email is verified; every write of one of these
marks writes the other consequence with it. Main definitions: `Enrollments.Request`,
`Enrollments.plan`, `Enrollments.report`, `Enrollments.verifyOwner`.
-/

namespace AccountPortal.Enrollments

inductive Request where
  | enroll (nodeId : String) (nodeKind : Value)
      (ownerUserId ownerEmail registrationTokenHash : String) (emailVerified : Bool)
  | approve (nodeId : String) (approved : Bool)
  | verifyOwner (ownerUserId : String)
  | touch (nodeId : String) (patch : Option (Fields Value))
  | get (nodeId : String)
  | listByOwner (ownerUserId : String)
  | checkToken (nodeId rawToken : String)

/-- What a caller tells of a check of the node; telling nothing is no patch of any column. -/
def patchOf (form : Option (Fields Value)) : Checked ValidationPatch :=
  (form.map ValidationPatch.ofForm).getD (.ok .empty)

/-! ## Writes -/

/-- A new node is neither approved nor active. -/
def fresh (nodeId : String) (kind : NodeKind) (owner email tokenHash : String)
    (emailVerified : Bool) (now : Int) : Enrollment where
  nodeId := nodeId
  nodeKind := kind
  ownerUserId := owner
  ownerEmail := email
  registrationTokenHash := tokenHash
  emailVerified := emailVerified
  nodeApproved := false
  active := false
  lastSeen := none
  lastIp := none
  lastCountryCode := none
  lastVpnDetected := none
  createdAt := now
  updatedAt := now

/-- A node that enrolls again keeps its approval, its date and what it told of itself. -/
def renewed (new old : Enrollment) : Enrollment :=
  { old with
    nodeKind := new.nodeKind
    ownerUserId := new.ownerUserId
    ownerEmail := new.ownerEmail
    registrationTokenHash := new.registrationTokenHash
    emailVerified := new.emailVerified
    active := deriveActive old.nodeApproved new.emailVerified
    updatedAt := new.updatedAt }

def approved (value : Bool) (now : Int) (e : Enrollment) : Enrollment :=
  { e with nodeApproved := value, active := deriveActive value e.emailVerified, updatedAt := now }

def ownerVerified (now : Int) (e : Enrollment) : Enrollment :=
  { e with emailVerified := true, active := deriveActive e.nodeApproved true, updatedAt := now }

def touched (patch : ValidationPatch) (now : Int) (e : Enrollment) : Enrollment :=
  { patch.apply e with lastSeen := some now, updatedAt := now }

/-! ## Statements -/

def find? (nodeId : String) (rows : List Enrollment) : Option Enrollment :=
  rows.find? (·.nodeId == nodeId)

def answer (nodeId : String) (rows : List Enrollment) : Answer :=
  .record ((find? nodeId rows).map Enrollment.record)

def enroll (new : Enrollment) (rows : List Enrollment) : List Enrollment × Answer :=
  let rows := Rows.upsert (·.nodeId == new.nodeId) (renewed new) new rows
  (rows, answer new.nodeId rows)

/-- Changes the row of a node and answers with it. -/
def change (nodeId : String) (f : Enrollment → Enrollment) (rows : List Enrollment) :
    List Enrollment × Answer :=
  let rows := Rows.change (·.nodeId == nodeId) f rows
  (rows, answer nodeId rows)

/-- Every node of an owner is told that the owner's email is verified. -/
def verifyOwner (ownerUserId : String) (now : Int) (rows : List Enrollment) :
    List Enrollment × Nat :=
  (Rows.change (·.ownerUserId == ownerUserId) (ownerVerified now) rows,
    rows.countP (·.ownerUserId == ownerUserId))

/-- The latest change first, and nodes of one time by their ids. -/
def listedBefore (a b : Enrollment) : Bool :=
  b.updatedAt < a.updatedAt || (a.updatedAt == b.updatedAt && textLe a.nodeId b.nodeId)

def listByOwner (ownerUserId : String) (rows : List Enrollment) : List Enrollment :=
  (rows.filter (·.ownerUserId == ownerUserId)).mergeSort listedBefore

/-- The node, if the token is the one it was registered with. -/
def checkToken (nodeId rawToken : String) (rows : List Enrollment) : Answer :=
  match find? nodeId rows with
  | none => .record none
  | some e =>
    if sameText e.registrationTokenHash (Token.hash rawToken) then .record (some e.record)
    else .mismatch

def plan (ctx : Context) : Request → Except Fault (Plan (List Enrollment))
  | .enroll id kind owner email hash verified =>
    (Choice.coerce "node kind" kind).map fun k =>
      .update [ctx.clock] (enroll (fresh id k owner email hash verified ctx.clock))
  | .approve id value => .ok (.update [ctx.clock] (change id (approved value ctx.clock)))
  | .verifyOwner owner =>
    .ok (.update [ctx.clock] fun rows =>
      let (rows, n) := verifyOwner owner ctx.clock rows
      (rows, .count n))
  | .touch id form =>
    match patchOf form with
    | .ok patch => .ok (.update [ctx.clock] (change id (touched patch ctx.clock)))
    | .error issues => .error (.invalid issues)
  | .get id => .ok (.query (answer id))
  | .listByOwner owner =>
    .ok (.query fun rows => .records ((listByOwner owner rows).map Enrollment.record))
  | .checkToken id raw => .ok (.query (checkToken id raw))

/-! ## Report -/

def stateText (e : Enrollment) : String := "(state=" ++ Choice.text e.state ++ ")"

def verifiedReport (ownerUserId : String) (nodes : Nat) : LogEntry :=
  ⟨.info, .enrollments,
    "Email verification applied to " ++ toString nodes ++ " node(s) of " ++ ownerUserId⟩

def report : Request → Except Fault Answer → List LogEntry
  | .enroll id _ owner _ _ _, .ok (.record (some (.enrollment e))) =>
    [⟨.info, .enrollments, "Node " ++ id ++ " enrolled for " ++ owner ++ " " ++ stateText e⟩]
  | .approve id value, .ok (.record (some (.enrollment e))) =>
    [⟨.info, .enrollments,
      "Node " ++ id ++ " approval=" ++ writtenFlag value ++ " " ++ stateText e⟩]
  | .approve id _, .ok (.record none) =>
    [⟨.debug, .enrollments, "Approval change for unknown node " ++ id⟩]
  | .verifyOwner owner, .ok (.count n) => [verifiedReport owner n]
  | .checkToken id _, .ok .mismatch =>
    [⟨.debug, .enrollments, "Registration token mismatch for node " ++ id⟩]
  | _, _ => []

end AccountPortal.Enrollments

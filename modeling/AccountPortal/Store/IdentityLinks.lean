import AccountPortal.Store.Plan

/-!
# Links to outside identities

A provider's subject belongs to the user it was linked to last. Main definitions:
`IdentityLinks.Request`, `IdentityLinks.plan`, `IdentityLinks.report`.
-/

namespace AccountPortal.IdentityLinks

inductive Request where
  | link (provider : Value) (subject userId : String) (emailSnapshot : Option String)
  | find (provider : Value) (subject : String)

def isOf (provider : Provider) (subject : String) (r : IdentityLink) : Bool :=
  r.provider == provider && r.subject == subject

/-- A link that exists gets the new user and address and keeps its date. -/
def link (new : IdentityLink) (rows : List IdentityLink) : List IdentityLink × Answer :=
  (Rows.upsert (isOf new.provider new.subject)
    (fun r => { r with userId := new.userId, emailSnapshot := new.emailSnapshot }) new rows,
    .nothing)

def find? (provider : Provider) (subject : String) (rows : List IdentityLink) : Option String :=
  (rows.find? (isOf provider subject)).map (·.userId)

/-- An unknown provider cannot be linked, and nothing is ever found for it. -/
def plan (ctx : Context) : Request → Except Fault (Plan (List IdentityLink))
  | .link provider subject user email =>
    (Choice.coerce "OAuth provider" provider).map fun p =>
      .update [ctx.clock] (link ⟨p, subject, user, email, ctx.clock⟩)
  | .find provider subject =>
    match Choice.ofValue? provider with
    | some p => .ok (.query fun rows => .owner (find? p subject rows))
    | none => .ok (.answered (.owner none))

def report : Request → Except Fault Answer → List LogEntry
  | .link provider _ user _, .ok _ =>
    match (Choice.ofValue? provider : Option Provider) with
    | some p => [⟨.info, .oauth, "Linked " ++ Choice.text p ++ " identity to " ++ user⟩]
    | none => []
  | .find provider _, .ok _ =>
    match (Choice.ofValue? provider : Option Provider) with
    | some _ => []
    | none => [⟨.debug, .oauth, "Lookup for unsupported OAuth provider " ++ provider.written⟩]
  | _, _ => []

end AccountPortal.IdentityLinks

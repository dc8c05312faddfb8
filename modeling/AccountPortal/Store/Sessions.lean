import AccountPortal.Store.Plan

/-!
# Login sessions

A session is found by the hash of its token while its expiry lies ahead; dead rows stay until they
are purged. Main definitions: `Sessions.Request`, `Sessions.plan`, `Sessions.report`.
-/

namespace AccountPortal

def Session.isLive (now : Int) (s : Session) : Bool := now < s.expiresAt

namespace Sessions

inductive Request where
  | create (sessionId userId tokenHash : String) (expiresAt : Option Int)
  | find (tokenHash : String)
  | logOut (tokenHash : String)
  | logOutUser (userId : String)
  | purge

/-- A session id and a token hash are used once. -/
def insert (new : Session) (rows : List Session) : Except Fault (List Session × Answer) :=
  if rows.any fun r => r.sessionId == new.sessionId || r.tokenHash == new.tokenHash then
    .error (.taken "session" "session id or token hash reused")
  else .ok (rows ++ [new], .record (some new.record))

def find? (tokenHash : String) (now : Int) (rows : List Session) : Option Session :=
  rows.find? fun r => r.tokenHash == tokenHash && r.isLive now

def logOut (tokenHash : String) (rows : List Session) : List Session × Answer :=
  (Rows.remove (·.tokenHash == tokenHash) rows, .flag (rows.any (·.tokenHash == tokenHash)))

def logOutUser (userId : String) (rows : List Session) : List Session × Answer :=
  Rows.purge (·.userId == userId) rows

def purge (now : Int) (rows : List Session) : List Session × Answer :=
  Rows.purge (!·.isLive now) rows

def plan (ctx : Context) : Request → Except Fault (Plan (List Session))
  | .create id user hash given =>
    let expiry := ctx.expiry given ctx.settings.sessionTtl
    .ok (.transaction [expiry, ctx.clock] (insert ⟨id, user, hash, expiry, ctx.clock⟩))
  | .find hash =>
    .ok (.transaction [ctx.clock] fun rows =>
      .ok (rows, .record ((find? hash ctx.clock rows).map Session.record)))
  | .logOut hash => .ok (.update [] (logOut hash))
  | .logOutUser user => .ok (.update [] (logOutUser user))
  | .purge => .ok (.update [ctx.clock] (purge ctx.clock))

def purgeReport (removed : Nat) : List LogEntry :=
  if removed = 0 then []
  else [⟨.info, .sessions, "Purged " ++ toString removed ++ " expired session(s)"⟩]

def report : Request → Except Fault Answer → List LogEntry
  | .logOutUser user, .ok (.count n) =>
    [⟨.info, .sessions, "Removed " ++ toString n ++ " session(s) for " ++ user⟩]
  | .purge, .ok (.count n) => purgeReport n
  | _, _ => []

end Sessions

end AccountPortal

import AccountPortal.Store.Plan

/-!
# OAuth states

The state of a round trip to a provider is consumed at most once, before its expiry; consuming
removes the row. Main definitions: `OAuthStates.Request`, `OAuthStates.plan`, `OAuthStates.report`.
-/

namespace AccountPortal

def OAuthState.isLive (now : Int) (s : OAuthState) : Bool := now < s.expiresAt

namespace OAuthStates

inductive Request where
  | create (stateId : String) (provider : Value) (redirectUri : String) (expiresAt : Option Int)
  | consume (stateId : String)
  | purge

def insert (new : OAuthState) (rows : List OAuthState) : Except Fault (List OAuthState × Answer) :=
  if rows.any (·.stateId == new.stateId) then .error (.taken "oauth state" new.stateId)
  else .ok (rows ++ [new], .moment new.expiresAt)

def consume (stateId : String) (now : Int) (rows : List OAuthState) : List OAuthState × Answer :=
  let live (r : OAuthState) : Bool := r.stateId == stateId && r.isLive now
  (Rows.remove live rows, .record ((rows.find? live).map OAuthState.record))

def purge (now : Int) (rows : List OAuthState) : List OAuthState × Answer :=
  Rows.purge (!·.isLive now) rows

def plan (ctx : Context) : Request → Except Fault (Plan (List OAuthState))
  | .create id provider uri given =>
    let expiry := ctx.expiry given ctx.settings.oauthStateTtl
    (Choice.coerce "OAuth provider" provider).map fun p =>
      .transaction [expiry, ctx.clock] (insert ⟨id, p, uri, expiry, ctx.clock⟩)
  | .consume id => .ok (.update [ctx.clock] (consume id ctx.clock))
  | .purge => .ok (.update [ctx.clock] (purge ctx.clock))

def report : Request → Except Fault Answer → List LogEntry
  | .consume id, .ok (.record none) => [⟨.debug, .oauth, "OAuth state " ++ id ++ " not consumable"⟩]
  | _, _ => []

end OAuthStates

end AccountPortal

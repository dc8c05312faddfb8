import AccountPortal.Store.Plan

/-!
# Passkey challenges

A challenge is consumed at most once, before its expiry; consuming removes the row. Main
definitions: `PasskeyChallenges.Request`, `PasskeyChallenges.plan`, `PasskeyChallenges.report`.
-/

namespace AccountPortal

def PasskeyChallenge.isLive (now : Int) (c : PasskeyChallenge) : Bool := now < c.expiresAt

namespace PasskeyChallenges

inductive Request where
  | create (challengeId challenge : String) (flow : Value) (expiresAt : Option Int)
      (userId email : Option String)
  | consume (challengeId : String)
  | purge

def insert (new : PasskeyChallenge) (rows : List PasskeyChallenge) :
    Except Fault (List PasskeyChallenge × Answer) :=
  if rows.any (·.challengeId == new.challengeId) then
    .error (.taken "passkey challenge" new.challengeId)
  else .ok (rows ++ [new], .moment new.expiresAt)

def consume (challengeId : String) (now : Int) (rows : List PasskeyChallenge) :
    List PasskeyChallenge × Answer :=
  let live (r : PasskeyChallenge) : Bool := r.challengeId == challengeId && r.isLive now
  (Rows.remove live rows, .record ((rows.find? live).map PasskeyChallenge.record))

def purge (now : Int) (rows : List PasskeyChallenge) : List PasskeyChallenge × Answer :=
  Rows.purge (!·.isLive now) rows

def plan (ctx : Context) : Request → Except Fault (Plan (List PasskeyChallenge))
  | .create id challenge flow given user email =>
    let expiry := ctx.expiry given ctx.settings.passkeyChallengeTtl
    (Choice.coerce "passkey flow" flow).map fun f =>
      .transaction [expiry, ctx.clock] (insert ⟨id, user, email, challenge, f, expiry, ctx.clock⟩)
  | .consume id => .ok (.update [ctx.clock] (consume id ctx.clock))
  | .purge => .ok (.update [ctx.clock] (purge ctx.clock))

def report : Request → Except Fault Answer → List LogEntry
  | .consume id, .ok (.record none) =>
    [⟨.debug, .passkeys, "Passkey challenge " ++ id ++ " not consumable"⟩]
  | _, _ => []

end PasskeyChallenges

end AccountPortal

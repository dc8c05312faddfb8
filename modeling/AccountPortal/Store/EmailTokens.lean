import AccountPortal.Store.Plan

/-!
# Email confirmation tokens

A token is consumed at most once, before its expiry; the row stays, with the time, until it is
purged. Main definitions: `EmailTokens.Request`, `EmailTokens.plan`, `EmailTokens.report`.
-/

namespace AccountPortal

/-- Neither consumed nor expired. -/
def EmailToken.isLive (now : Int) (t : EmailToken) : Bool :=
  t.consumedAt.isNone && now < t.expiresAt

namespace EmailTokens

inductive Request where
  | create (tokenId userId tokenHash : String) (expiresAt : Option Int)
  | consume (tokenHash : String)
  | purge

/-- A token id and a token hash are used once. -/
def insert (new : EmailToken) (rows : List EmailToken) : Except Fault (List EmailToken × Answer) :=
  if rows.any fun r => r.tokenId == new.tokenId || r.tokenHash == new.tokenHash then
    .error (.taken "email verification" "token id or hash reused")
  else .ok (rows ++ [new], .moment new.expiresAt)

/-- Marks the token and answers whose it was. -/
def consume (tokenHash : String) (now : Int) (rows : List EmailToken) : List EmailToken × Answer :=
  let live (r : EmailToken) : Bool := r.tokenHash == tokenHash && r.isLive now
  (Rows.change live (fun r => { r with consumedAt := some now }) rows,
    .owner ((rows.find? live).map (·.userId)))

def purge (now : Int) (rows : List EmailToken) : List EmailToken × Answer :=
  Rows.purge (!·.isLive now) rows

def plan (ctx : Context) : Request → Except Fault (Plan (List EmailToken))
  | .create id user hash given =>
    let expiry := ctx.expiry given ctx.settings.emailVerifyTtl
    .ok (.transaction [expiry, ctx.clock] (insert ⟨id, user, hash, expiry, none, ctx.clock⟩))
  | .consume hash => .ok (.update [ctx.clock] (consume hash ctx.clock))
  | .purge => .ok (.update [ctx.clock] (purge ctx.clock))

def purgeReport (removed : Nat) : List LogEntry :=
  if removed = 0 then []
  else [⟨.info, .emailTokens,
    "Purged " ++ toString removed ++ " spent email verification token(s)"⟩]

def report : Request → Except Fault Answer → List LogEntry
  | .consume _, .ok (.owner none) =>
    [⟨.debug, .emailTokens, "Email verification token not consumable"⟩]
  | .purge, .ok (.count n) => purgeReport n
  | _, _ => []

end EmailTokens

end AccountPortal

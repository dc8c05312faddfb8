import AccountPortal.Store.Plan

/-!
# Wallet onboarding

One wallet for a user; the first record of it stands, and so does the first acknowledgement. Main
definitions: `Wallets.Request`, `Wallets.plan`, `Wallets.report`.
-/

namespace AccountPortal.Wallets

inductive Request where
  | create (userId accountId seedPhraseHash encryptedPrivateKeyRef : String)
      (network : Option String)
  | get (userId : String)
  | acknowledge (userId : String)

/-- No network, or an empty one, is the network of the settings. -/
def networkOf (settings : Settings) (given : Option String) : String :=
  (given.filter (· != "")).getD (Choice.text settings.walletDefaultNetwork)

/-- A user who has a wallet keeps it. -/
def insert (new : Wallet) (rows : List Wallet) : List Wallet × Answer :=
  if rows.any (·.userId == new.userId) then (rows, .flag false) else (rows ++ [new], .flag true)

def find? (userId : String) (rows : List Wallet) : Option Wallet := rows.find? (·.userId == userId)

def answer (userId : String) (rows : List Wallet) : Answer :=
  .record ((find? userId rows).map Wallet.record)

def acknowledged (now : Int) (w : Wallet) : Wallet :=
  { w with acknowledgedAt := w.acknowledgedAt.or (some now) }

def acknowledge (userId : String) (now : Int) (rows : List Wallet) : List Wallet × Answer :=
  let rows := Rows.change (·.userId == userId) (acknowledged now) rows
  (rows, answer userId rows)

def plan (ctx : Context) : Request → Except Fault (Plan (List Wallet))
  | .create user account seed key network =>
    let wallet : Wallet :=
      ⟨user, account, networkOf ctx.settings network, seed, key, ctx.clock, none⟩
    .ok (.update [ctx.clock] (insert wallet))
  | .get user => .ok (.query (answer user))
  | .acknowledge user => .ok (.update [ctx.clock] (acknowledge user ctx.clock))

def report (ctx : Context) : Request → Except Fault Answer → List LogEntry
  | .create user _ _ _ network, .ok (.flag true) =>
    [⟨.info, .wallets,
      "Wallet onboarding recorded for " ++ user ++ " on " ++ networkOf ctx.settings network⟩]
  | _, _ => []

end AccountPortal.Wallets

import AccountPortal.Proofs.IdentityLink.Chronicle
import AccountPortal.Proofs.Wallet.Chronicle

/-!
# The first wallet and the last link

Two tables of one row for a key, with opposite rules for who writes it. A wallet is what its first
creation made it, whatever is asked later; a link is what its last writer made it, but for its date.
-/

namespace AccountPortal

/-- While the schema is kept, each user's wallet follows the first creation and the first
acknowledgement after it, and each subject of a provider the last link and the date of the first. -/
theorem wallets_keep_the_first_and_links_the_last (settings : Settings) (clock : Int)
    (steps : List Portal.Step) (kept : .dropSchema ∉ steps) :
    (∀ user, Wallets.Chronicle (.fresh settings clock) steps user) ∧
      ∀ provider subject, IdentityLinks.Chronicle (.fresh settings clock) steps provider subject :=
  ⟨Wallets.chronicle_of_run settings clock steps kept,
    IdentityLinks.chronicle_of_run settings clock steps kept⟩

/-- A wallet acknowledged at time zero, and a link that goes over to another user and loses its
address. -/
theorem wallet_kept_and_link_moved :
    let create (account : String) (network : Option String) : Portal.Step :=
      .call (.wallets (.create "u" account "seed" "key" network))
    let acknowledge : Portal.Step := .call (.wallets (.acknowledge "u"))
    let link (user : String) (email : Option String) : Portal.Step :=
      .call (.identityLinks (.link (.text "google") "s" user email))
    let steps : List Portal.Step :=
      [acknowledge, .advance (-3), create "a" (some ""), create "b" (some "testnet"),
        link "u" (some "u@x"), .advance 3, acknowledge, .advance 5, acknowledge, link "v" none,
        .call (.identityLinks (.link (.text "apple") "s" "w" none))]
    let p := Portal.fresh .standard 0
    let q := (p.run steps).1
    let find (provider : String) : Call := .identityLinks (.find (.text provider) "s")
    .dropSchema ∉ steps ∧
      (∃ t w, q.tables = some t ∧ Wallets.ofUser "u" t.wallets = [w] ∧
        (q.call (.wallets (.get "u"))).2.outcome = .ok (.record (some w.record)) ∧
        w.accountId = "a" ∧ w.network = "signet" ∧ w.createdAt = -3 ∧
        w.acknowledgedAt = some 0) ∧
      (∃ t r, q.tables = some t ∧ IdentityLinks.ofSubject .google "s" t.identityLinks = [r] ∧
        r.userId = "v" ∧ r.emailSnapshot = none ∧ r.createdAt = -3) ∧
      (q.call (find "google")).2.outcome = .ok (.owner (some "v")) ∧
      (q.call (find "somewhere")).2.outcome = .ok (.owner none) := by
  intro create acknowledge link steps p q find
  have kept : .dropSchema ∉ steps := by simp [steps, create, acknowledge, link]
  obtain ⟨wallets, links⟩ := wallets_keep_the_first_and_links_the_last .standard 0 steps kept
  have last : latest (IdentityLinks.linking? .google "s") (p.history steps) =
      some ⟨.google, "s", "v", none, 5⟩ := by
    simp only [steps, p, create, acknowledge, link]
    rfl
  refine ⟨kept, ?_, ?_, ?_, ?_⟩
  · have first : earliest (Wallets.creation? "u") (p.history steps) =
        some ⟨"a", "seed", "key", some "", -3⟩ := by
      simp only [steps, p, create, acknowledge, link]
      rfl
    have noted : earliest (Wallets.acknowledgement? "u")
        (afterEarliest (Wallets.creation? "u") (p.history steps)) = some 0 := by
      simp only [steps, p, create, acknowledge, link]
      rfl
    obtain ⟨t, w, there, hrows, answered, hw⟩ := (wallets "u").row first
    exact ⟨t, w, there, hrows, answered, hw.accountId, hw.network, hw.createdAt,
      hw.acknowledgedAt.trans noted⟩
  · have dated : earliest (fun e => (IdentityLinks.linking? .google "s" e).map fun _ => e.clock)
        (p.history steps) = some (-3) := by
      simp only [steps, p, create, acknowledge, link]
      rfl
    obtain ⟨t, r, there, hrows, hr⟩ := (links .google "s").row last
    exact ⟨t, r, there, hrows, hr.userId, hr.emailSnapshot,
      Option.some.inj (hr.createdAt.symm.trans dated)⟩
  · have owner := (links .google "s").owner (.text "google")
    have known : Choice.ofValue? (.text "google") = some Provider.google := by decide
    rw [IdentityLinks.ownerBy, known, Option.bind_some,
      show latest _ ((Portal.fresh .standard 0).history steps) = _ from last] at owner
    exact owner
  · have owner := (links .google "s").owner (.text "somewhere")
    have unknown : Choice.ofValue? (.text "somewhere") = (none : Option Provider) := by decide
    rw [IdentityLinks.ownerBy, unknown] at owner
    exact owner

end AccountPortal

import AccountPortal.Proofs.History

/-!
# Requests on the passkey credentials

What a request that is answered makes of the credentials, request by request, and that no event does
anything else to them:

    e.Moves settings (some t) (some u) →
      a credential request of `e` made the credentials so, or else
        u.passkeyCredentials = t.passkeyCredentials                       (credentials_of_moves)
-/

namespace AccountPortal.PasskeyCredentials

/-- The credentials after a request that is answered, and its answer. -/
inductive Answered (now : Int) (rows : List PasskeyCredential) :
    Request → List PasskeyCredential → Answer → Prop where
  | register {r : Registration} {given : Value} {ts : Option (List Transport)}
      (canonical : canonicalTransports given = .ok ts) :
      Answered now rows (.register r given) (register (fresh r ts now) rows).1
        (register (fresh r ts now) rows).2
  | setCounter (id : String) (counter : Int) :
      Answered now rows (.setCounter id counter) (setCounter id counter now rows).1
        (setCounter id counter now rows).2
  | get (id : String) : Answered now rows (.get id) rows (answer id rows)
  | listForUser (user : String) :
      Answered now rows (.listForUser user) rows
        (.records ((listForUser user rows).map PasskeyCredential.record))
  | remove (id user : String) :
      Answered now rows (.remove id user) (remove id user rows).1 (remove id user rows).2

variable {ctx : Context} {rows rows' : List PasskeyCredential} {a : Answer}

theorem answered_of_effect (r : Request)
    (h : Plan.effectOf (plan ctx r) rows = .ok (rows', a)) : Answered ctx.clock rows r rows' a := by
  cases r with
  | register r given =>
    simp only [plan] at h
    cases canonical : canonicalTransports given with
    | error f =>
      rw [canonical] at h
      cases h
    | ok ts =>
      rw [canonical] at h
      obtain ⟨-, rfl, rfl⟩ := Plan.effect_update_eq_ok_iff.mp h
      exact .register canonical
  | setCounter id counter =>
    simp only [plan, Plan.effectOf_ok] at h
    obtain ⟨-, rfl, rfl⟩ := Plan.effect_update_eq_ok_iff.mp h
    exact .setCounter id counter
  | get id =>
    cases h
    exact .get id
  | listForUser user =>
    cases h
    exact .listForUser user
  | remove id user =>
    simp only [plan, Plan.effectOf_ok] at h
    obtain ⟨-, rfl, rfl⟩ := Plan.effect_update_eq_ok_iff.mp h
    exact .remove id user

/-! ## Events -/

variable {t u : Tables} {c : Call}

theorem credentials_of_effect (h : c.effect ctx t = .ok (u, a))
    (other : ∀ r, c ≠ .passkeyCredentials r) : u.passkeyCredentials = t.passkeyCredentials := by
  cases c with
  | passkeyCredentials r => exact absurd rfl (other r)
  | purgeExpired =>
    obtain ⟨-, rfl, -⟩ := Plan.effect_update_eq_ok_iff.mp h
    rfl
  | _ => exact Plan.keep_of_effectOf_on h (fun _ => rfl) Tables.passkeyCredentials fun _ _ => rfl

theorem credentials_of_moves {settings : Settings} {e : Event}
    (h : e.Moves settings (some t) (some u)) :
    (∃ r a, e.deed = .call (.passkeyCredentials r) (.ok a) ∧
      Answered e.clock t.passkeyCredentials r u.passkeyCredentials a) ∨
      (u.passkeyCredentials = t.passkeyCredentials ∧
        ∀ r a, e.deed ≠ .call (.passkeyCredentials r) (.ok a)) := by
  rcases Event.asked_or_kept_of_moves h credentials_of_effect with ⟨r, a, hdeed, heffect⟩ | kept
  · obtain ⟨rows, hr, rfl⟩ := Plan.exists_of_effectOf_on heffect fun _ => rfl
    exact Or.inl ⟨r, a, hdeed, answered_of_effect r hr⟩
  · exact Or.inr kept

end AccountPortal.PasskeyCredentials

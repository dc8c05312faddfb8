import AccountPortal.Proofs.RowLaw

/-!
# Times in order

As long as the clock is never turned back, no row has a time that is ahead of the clock, and the
times of a row come in the order of what they are the times of: nothing happens to a row before it
is created, and no node is seen after its last change. Whatever the clock does, an email token is
only consumed before it expires.

    r.consumedAt = some consumed → consumed < r.expiresAt
    no clock is turned back → (timely q.clock).Holds t                      (times_stay_in_order)
-/

namespace AccountPortal

/-! ## The order of times -/

/-- A time that lies between two others, unless it is not set. -/
def Between (first last : Int) (time : Option Int) : Prop :=
  ∀ t, time = some t → first ≤ t ∧ t ≤ last

/-- The order of the times of a row, with the time of the clock as the last. -/
def timely (now : Int) : RowLaw where
  user r := r.createdAt ≤ now ∧ Between r.createdAt now r.verifiedAt
  session r := r.createdAt ≤ now
  emailToken r := r.createdAt ≤ now ∧ Between r.createdAt now r.consumedAt
  identityLink r := r.createdAt ≤ now
  oauthState r := r.createdAt ≤ now
  enrollment r :=
    r.createdAt ≤ r.updatedAt ∧ r.updatedAt ≤ now ∧
      ∀ seen, r.lastSeen = some seen → seen ≤ r.updatedAt
  wallet r := r.createdAt ≤ now ∧ Between r.createdAt now r.acknowledgedAt
  passkeyCredential r :=
    r.createdAt ≤ now ∧ ∃ used, r.lastUsedAt = some used ∧ r.createdAt ≤ used ∧ used ≤ now
  passkeyChallenge r := r.createdAt ≤ now
  user_labelled _ _ _ h := h

/-- What is consumed was consumed before its expiry. -/
def spentInTime : RowLaw where
  user _ := True
  session _ := True
  emailToken r := ∀ consumed, r.consumedAt = some consumed → consumed < r.expiresAt
  identityLink _ := True
  oauthState _ := True
  enrollment _ := True
  wallet _ := True
  passkeyCredential _ := True
  passkeyChallenge _ := True
  user_labelled _ _ _ h := h

section between

variable {first last : Int} {time : Option Int}

theorem between_none : Between first last none := by
  intro t h
  cases h

theorem between_some (h : first ≤ last) : Between first last (some last) := by
  intro t ht
  cases ht
  exact ⟨h, le_refl last⟩

/-- A time that is set for the first time is set to the last there is. -/
theorem Between.or_some (h : Between first last time) (order : first ≤ last) :
    Between first last (time.or (some last)) := by
  cases time with
  | none => exact between_some order
  | some t => exact h

theorem Between.later {later : Int} (h : Between first last time) (order : last ≤ later) :
    Between first later time :=
  fun t ht => ⟨(h t ht).1, (h t ht).2.trans order⟩

end between

/-! ## What calls write -/

/-- A node that is changed now, keeps its date and is seen now if it is seen. -/
theorem timely_enrollment {now : Int} {r r' : Enrollment} (h : (timely now).enrollment r)
    (created : r'.createdAt = r.createdAt) (updated : r'.updatedAt = now)
    (seen : r'.lastSeen = r.lastSeen ∨ r'.lastSeen = some now) : (timely now).enrollment r' := by
  obtain ⟨order, past, seenBefore⟩ := h
  show r'.createdAt ≤ r'.updatedAt ∧ r'.updatedAt ≤ now ∧ _
  rw [created, updated]
  refine ⟨order.trans past, le_refl now, fun s hs => ?_⟩
  rcases seen with same | new
  · exact (seenBefore s (same ▸ hs)).trans past
  · exact (Option.some.inj (new.symm.trans hs)).ge

theorem timely_keptAt (now : Int) : (timely now).KeptAt now where
  newUser _ _ _ _ verified := by
    refine ⟨le_refl now, ?_⟩
    cases verified with
    | false => exact between_none
    | true => exact between_some (le_refl now)
  verified _ h := ⟨h.1, h.2.or_some h.1⟩
  newSession _ _ _ _ _ := le_refl now
  newEmailToken _ _ _ _ _ := ⟨le_refl now, between_none⟩
  consumed _ _ h := ⟨h.1, between_some h.1⟩
  newIdentityLink _ _ _ _ := le_refl now
  relinked _ _ _ h := h
  newOAuthState _ _ _ _ _ := le_refl now
  newEnrollment _ _ _ _ _ _ := ⟨le_refl now, le_refl now, nofun⟩
  enrolledAgain _ _ _ _ _ _ _ h := timely_enrollment h rfl rfl (.inl rfl)
  approved _ _ h := timely_enrollment h rfl rfl (.inl rfl)
  ownerVerified _ h := timely_enrollment h rfl rfl (.inl rfl)
  touched _ _ h := timely_enrollment h rfl rfl (.inr rfl)
  newWallet _ _ _ _ _ := ⟨le_refl now, between_none⟩
  acknowledged _ h := ⟨h.1, h.2.or_some h.1⟩
  newCredential _ _ _ := ⟨le_refl now, now, rfl, le_refl now, le_refl now⟩
  registeredAgain _ _ _ _ h := ⟨h.1, now, rfl, h.1, le_refl now⟩
  counted _ _ _ h := ⟨h.1, now, rfl, h.1, le_refl now⟩
  newChallenge _ _ _ _ _ _ _ := le_refl now

theorem spentInTime_keptAt (now : Int) : spentInTime.KeptAt now := by
  constructor
  case newEmailToken =>
    intro id user hash expiry _ consumed h
    cases h
  case consumed =>
    intro r live _ consumed h
    cases h
    obtain ⟨-, early⟩ := Bool.and_eq_true_iff.mp live
    exact of_decide_eq_true early
  all_goals
    intros
    trivial

/-- What is in order stays so as time goes on. -/
theorem timely_later {now later : Int} {t : Tables} (h : (timely now).Holds t)
    (order : now ≤ later) : (timely later).Holds t where
  users r hr := ⟨(h.users r hr).1.trans order, (h.users r hr).2.later order⟩
  sessions r hr := (h.sessions r hr).trans order
  emailTokens r hr := ⟨(h.emailTokens r hr).1.trans order, (h.emailTokens r hr).2.later order⟩
  identityLinks r hr := (h.identityLinks r hr).trans order
  oauthStates r hr := (h.oauthStates r hr).trans order
  enrollments r hr :=
    have ⟨created, updated, seen⟩ := h.enrollments r hr
    ⟨created, updated.trans order, seen⟩
  wallets r hr := ⟨(h.wallets r hr).1.trans order, (h.wallets r hr).2.later order⟩
  passkeyCredentials r hr :=
    have ⟨created, used, hused, first, last⟩ := h.passkeyCredentials r hr
    ⟨created.trans order, used, hused, first, last.trans order⟩
  passkeyChallenges r hr := (h.passkeyChallenges r hr).trans order

/-! ## Runs -/

/-- After every run the consumed email tokens were consumed before their expiry, and unless the run
turned the clock back the times of every row are in order. -/
theorem times_stay_in_order (settings : Settings) (clock : Int) (steps : List Portal.Step)
    (t : Tables) (there : ((Portal.fresh settings clock).run steps).1.tables = some t) :
    (∀ r ∈ t.emailTokens, ∀ consumed, r.consumedAt = some consumed → consumed < r.expiresAt) ∧
      ((∀ ms, .advance ms ∈ steps → 0 ≤ ms) →
        (timely ((Portal.fresh settings clock).run steps).1.clock).Holds t) := by
  let p := Portal.fresh settings clock
  constructor
  · have spent : spentInTime.Holds t := (p.run_course steps).invariant spentInTime.holds_empty
      (fun e _ _ => spentInTime.holds_of_moves fun _ => spentInTime_keptAt e.clock) t there
    exact spent.emailTokens
  · intro forward
    refine p.run_invariant (P := fun now t => (timely now).Holds t)
      (fun now => (timely now).holds_empty) ?_ ?_ ?_ t there
    · exact fun e _ _ => (timely e.clock).holds_of_moves fun _ => timely_keptAt e.clock
    · intro s hs now t h
      refine timely_later h ?_
      cases s with
      | advance ms => exact Int.le_add_of_nonneg_right (forward ms hs)
      | _ => exact (Int.add_zero now).ge
    · intro t ht
      cases ht
      exact (timely p.clock).holds_empty

/-- A user, a node and a token that are written to at several times, and a credential. -/
theorem times_of_one_user :
    let steps : List Portal.Step :=
      [.call (.accounts (.create "u" "a@x" none none false)),
        .call (.emailTokens (.create "e" "u" "h" (some 9))),
        .call (.enrollments (.enroll "n" (.text "agent") "u" "a@x" "r" false)), .advance 5,
        .call (.emailTokens (.consume "h")), .call (.accounts (.verifyEmail "u")),
        .call (.passkeyCredentials (.register ⟨"c", "u", "w", "k", 0, "multi", false⟩ (.list []))),
        .advance 0]
    let t : Tables := { Tables.empty with
      users := [⟨"u", "a@x", true, none, none, -3, some 2⟩]
      emailTokens := [⟨"e", "u", "h", 9, some 2, -3⟩]
      enrollments := [⟨"n", .agent, "u", "a@x", "r", true, false, false, none, none, none, none,
        -3, 2⟩]
      passkeyCredentials := [⟨"c", "u", "w", "k", 0, "multi", false, none, 2, some 2⟩] }
    ((Portal.fresh .standard (-3)).run steps).1.tables = some t ∧
      (∀ ms, .advance ms ∈ steps → 0 ≤ ms) ∧
      (∀ r ∈ t.emailTokens, ∀ consumed, r.consumedAt = some consumed → consumed < r.expiresAt) ∧
      (timely 2).Holds t := by
  intro steps t
  have there : ((Portal.fresh .standard (-3)).run steps).1.tables = some t := rfl
  have forward : ∀ ms, .advance ms ∈ steps → 0 ≤ ms := by
    intro ms hms
    simp only [steps, List.mem_cons, Portal.Step.advance.injEq, reduceCtorEq, false_or, or_false,
      List.not_mem_nil] at hms
    omega
  obtain ⟨spent, ordered⟩ := times_stay_in_order .standard (-3) steps t there
  exact ⟨there, forward, spent, ordered forward⟩

end AccountPortal

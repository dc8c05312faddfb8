import AccountPortal.Proofs.Query.Work

/-!
# Stores, statement by statement

The work of every request of every store: the statements it consists of, with the rows that it
expects back and what it makes of a key in use. It comes to what the request plans:

    Realizes ((Sessions.plan ctx r).map Plan.onTable) (Sessions.work ctx · r)    (Sessions.realizes)

and so for the other stores and for all calls (`Call.realizes`). The verification of an account is
two statements on two tables in one transaction, and the purge of the portal one on each of the four
ledgers, each in a transaction of its own.
-/

namespace AccountPortal

open Work

/-! ## Shapes -/

/-- A row with a key of one text is found by it. -/
theorem Write.sameKey_eq {α : Type} [Row α] (id : α → String) (h : ∀ r, Row.key r = [id r])
    (new : α) : Write.sameKey new = fun r => id r == id new := by
  funext r
  simp [Write.sameKey, h]

section ledgers

variable {α β : Type} [Row α] [Keyed α]

/-- Removes the rows that are no longer live, and counts them. -/
def purging (live : α → Bool) (now : Int) (answer : Nat → β) : Query α β where
  integers := [now]
  write := .remove fun r => !live r
  answer rows := answer rows.length

theorem statement_purging [Placed α] {t : Tables} {live : α → Bool} {now : Int}
    (fits : fitsWord now = true) (prepared : Bool) (answer : Nat → β) :
    statement prepared (purging live now answer) (some t) =
      (some (Placed.withRows (Rows.remove (fun r => !live r) (Placed.rows t)) t),
        .ok (answer ((Placed.rows t).countP fun r => !live r))) := by
  have bound : (purging live now answer).integers.all fitsWord = true := by simp [purging, fits]
  refine (statement_of_sound bound KeysDiffer.remove rfl).trans ?_
  simp [purging, Write.after, Write.returned, List.countP_eq_length_filter]

theorem Realizes.purge [Placed α] (live : α → Bool) (now : Int) :
    Realizes (.ok (.onTable (.update [now] (Rows.purge fun r => !live r))))
      fun prepared => Work.single α (prepared 0) (purging live now .count) :=
  Realizes.remove fun rows => Answer.rowCount_filter _ rows

end ledgers

/-! ## Sessions -/

namespace Sessions

def work (ctx : Context) (prepared : Nat → Bool) : Request → Work Answer
  | .create id user hash given =>
    let expiry := ctx.expiry given ctx.settings.sessionTtl
    let new : Session := ⟨id, user, hash, expiry, ctx.clock⟩
    single Session (prepared 0)
      { integers := [expiry, ctx.clock]
        write := .insert new
        collision := .fault (.taken "session" "session id or token hash reused")
        answer := fun _ => .record (some new.record) }
  | .find hash =>
    single Session (prepared 0)
      { integers := [ctx.clock]
        write := .select fun r => r.tokenHash == hash && r.isLive ctx.clock
        answer := .first Session.record }
  | .logOut hash =>
    single Session (prepared 0) { write := .remove (·.tokenHash == hash), answer := .anyRow }
  | .logOutUser user =>
    single Session (prepared 0) { write := .remove (·.userId == user), answer := .rowCount }
  | .purge => single Session (prepared 0) (purging (Session.isLive ctx.clock) ctx.clock .count)

theorem realizes (ctx : Context) (r : Request) :
    Realizes ((plan ctx r).map Plan.onTable) fun prepared => work ctx prepared r := by
  cases r with
  | create id user hash given =>
    refine Realizes.insert ?_ rfl rfl
    intro r
    simp [keysOf, Keyed.unique, Row.key]
  | find hash => exact Realizes.select (fun _ _ => rfl) (Answer.first_filter _ _)
  | logOut hash => exact Realizes.remove (Answer.anyRow_filter _)
  | logOutUser user => exact Realizes.remove (Answer.rowCount_filter _)
  | purge => exact Realizes.purge _ _

end Sessions

/-! ## Email tokens -/

namespace EmailTokens

def work (ctx : Context) (prepared : Nat → Bool) : Request → Work Answer
  | .create id user hash given =>
    let expiry := ctx.expiry given ctx.settings.emailVerifyTtl
    single EmailToken (prepared 0)
      { integers := [expiry, ctx.clock]
        write := .insert ⟨id, user, hash, expiry, none, ctx.clock⟩
        collision := .fault (.taken "email verification" "token id or hash reused")
        answer := fun _ => .moment expiry }
  | .consume hash =>
    single EmailToken (prepared 0)
      { integers := [ctx.clock]
        write := .change (fun r => r.tokenHash == hash && r.isLive ctx.clock)
          fun r => { r with consumedAt := some ctx.clock }
        expected := .atMostOne
        answer := fun rows => .owner (rows.head?.map (·.userId)) }
  | .purge =>
    single EmailToken (prepared 0) (purging (EmailToken.isLive ctx.clock) ctx.clock .count)

theorem realizes (ctx : Context) (r : Request) :
    Realizes ((plan ctx r).map Plan.onTable) fun prepared => work ctx prepared r := by
  cases r with
  | create id user hash given =>
    refine Realizes.insert ?_ rfl rfl
    intro r
    simp [keysOf, Keyed.unique, Row.key]
  | consume hash =>
    refine Realizes.change ?_ ?_ ?_
    · simp [keysOf, Keyed.unique, Row.key]
    · intro rows h
      have single : (rows.filter fun r => r.tokenHash == hash && r.isLive ctx.clock).length ≤ 1 :=
        h.length_filter_le (fun r => [r.tokenHash]) (by simp [keysOf, Keyed.unique]) [hash]
          (by simp +contextual)
      simpa [RowCount.allows] using single
    · intro rows
      rw [List.head?_map, List.head?_filter, Option.map_map]
      rfl
  | purge => exact Realizes.purge _ _

end EmailTokens

/-! ## OAuth states -/

namespace OAuthStates

def work (ctx : Context) (prepared : Nat → Bool) : Request → Work Answer
  | .create id provider uri given =>
    let expiry := ctx.expiry given ctx.settings.oauthStateTtl
    checked (Choice.coerce "OAuth provider" provider) fun p =>
      single OAuthState (prepared 0)
        { integers := [expiry, ctx.clock]
          write := .insert ⟨id, p, uri, expiry, ctx.clock⟩
          collision := .fault (.taken "oauth state" id)
          answer := fun _ => .moment expiry }
  | .consume id =>
    single OAuthState (prepared 0)
      { integers := [ctx.clock]
        write := .remove fun r => r.stateId == id && r.isLive ctx.clock
        answer := .first OAuthState.record }
  | .purge =>
    single OAuthState (prepared 0) (purging (OAuthState.isLive ctx.clock) ctx.clock .count)

theorem realizes (ctx : Context) (r : Request) :
    Realizes ((plan ctx r).map Plan.onTable) fun prepared => work ctx prepared r := by
  cases r with
  | create id provider uri given =>
    refine Realizes.checked fun p => Realizes.insert ?_ rfl rfl
    intro r
    simp [keysOf, Keyed.unique, Row.key]
  | consume id => exact Realizes.remove (Answer.first_filter _ _)
  | purge => exact Realizes.purge _ _

end OAuthStates

/-! ## Passkey challenges -/

namespace PasskeyChallenges

def work (ctx : Context) (prepared : Nat → Bool) : Request → Work Answer
  | .create id challenge flow given user email =>
    let expiry := ctx.expiry given ctx.settings.passkeyChallengeTtl
    checked (Choice.coerce "passkey flow" flow) fun f =>
      single PasskeyChallenge (prepared 0)
        { integers := [expiry, ctx.clock]
          write := .insert ⟨id, user, email, challenge, f, expiry, ctx.clock⟩
          collision := .fault (.taken "passkey challenge" id)
          answer := fun _ => .moment expiry }
  | .consume id =>
    single PasskeyChallenge (prepared 0)
      { integers := [ctx.clock]
        write := .remove fun r => r.challengeId == id && r.isLive ctx.clock
        answer := .first PasskeyChallenge.record }
  | .purge =>
    single PasskeyChallenge (prepared 0)
      (purging (PasskeyChallenge.isLive ctx.clock) ctx.clock .count)

theorem realizes (ctx : Context) (r : Request) :
    Realizes ((plan ctx r).map Plan.onTable) fun prepared => work ctx prepared r := by
  cases r with
  | create id challenge flow given user email =>
    refine Realizes.checked fun f => Realizes.insert ?_ rfl rfl
    intro r
    simp [keysOf, Keyed.unique, Row.key]
  | consume id => exact Realizes.remove (Answer.first_filter _ _)
  | purge => exact Realizes.purge _ _

end PasskeyChallenges

/-! ## Identity links -/

namespace IdentityLinks

def work (ctx : Context) (prepared : Nat → Bool) : Request → Work Answer
  | .link provider subject user email =>
    checked (Choice.coerce "OAuth provider" provider) fun p =>
      single IdentityLink (prepared 0)
        { integers := [ctx.clock]
          write := .upsert (fun r => { r with userId := user, emailSnapshot := email })
            ⟨p, subject, user, email, ctx.clock⟩
          answer := fun _ => .nothing }
  | .find provider subject =>
    match Choice.ofValue? provider with
    | some p =>
      single IdentityLink (prepared 0)
        { write := .select (isOf p subject)
          expected := .atMostOne
          answer := fun rows => .owner (rows.head?.map (·.userId)) }
    | none => answer (.owner none)

theorem isOf_iff (p : Provider) (subject : String) (r : IdentityLink) :
    isOf p subject r = true ↔ Row.key r = [Choice.text p, subject] := by
  have text_inj : Choice.text r.provider = Choice.text p ↔ r.provider = p := by
    cases r.provider <;> cases p <;> decide
  simp [isOf, Row.key, text_inj]

theorem realizes (ctx : Context) (r : Request) :
    Realizes ((plan ctx r).map Plan.onTable) fun prepared => work ctx prepared r := by
  cases r with
  | link provider subject user email =>
    refine Realizes.checked fun p => Realizes.upsert rfl (fun _ => rfl) ?_ rfl fun _ => rfl
    funext r
    rw [Bool.eq_iff_iff, isOf_iff]
    simp [Write.sameKey, Row.key]
  | find provider subject =>
    simp only [plan, work]
    cases (Choice.ofValue? provider : Option Provider) with
    | none => exact Realizes.answered _
    | some p =>
      refine Realizes.select ?_ ?_
      · intro rows h
        have single := h.length_filter_le Row.key List.mem_cons_self [Choice.text p, subject]
          fun r => (isOf_iff p subject r).mp
        simpa [RowCount.allows] using single
      · intro rows
        rw [List.head?_filter]
        rfl

end IdentityLinks

/-! ## Wallets -/

namespace Wallets

def work (ctx : Context) (prepared : Nat → Bool) : Request → Work Answer
  | .create user account seed key network =>
    single Wallet (prepared 0)
      { integers := [ctx.clock]
        write := .insertUnless
          ⟨user, account, networkOf ctx.settings network, seed, key, ctx.clock, none⟩
        expected := .atMostOne
        answer := .anyRow }
  | .get user =>
    single Wallet (prepared 0)
      { write := .select (·.userId == user), answer := .first Wallet.record }
  | .acknowledge user =>
    single Wallet (prepared 0)
      { integers := [ctx.clock]
        write := .change (·.userId == user) (acknowledged ctx.clock)
        answer := .first Wallet.record }

theorem realizes (ctx : Context) (r : Request) :
    Realizes ((plan ctx r).map Plan.onTable) fun prepared => work ctx prepared r := by
  cases r with
  | create user account seed key network =>
    refine Realizes.insertUnless rfl (fun n hn => by simpa [RowCount.allows] using hn) ?_
    intro rows
    rw [Write.after, Write.returned, Write.sameKey_eq Wallet.userId fun _ => rfl]
    unfold insert
    split <;> rfl
  | get user => exact Realizes.select (fun _ _ => rfl) (Answer.first_filter _ _)
  | acknowledge user =>
    refine Realizes.change ?_ (fun _ _ => rfl) (Answer.first_change _ fun _ h => h)
    simp [keysOf, Keyed.unique, Row.key, acknowledged]

end Wallets

/-! ## Passkey credentials -/

namespace PasskeyCredentials

def work (ctx : Context) (prepared : Nat → Bool) : Request → Work Answer
  | .register r transports =>
    checked (canonicalTransports transports) fun ts =>
      let new := fresh r ts ctx.clock
      single PasskeyCredential (prepared 0)
        { integers := [r.counter, ctx.clock]
          write := .upsert (renewed new) new
          expected := .one
          answer := .first PasskeyCredential.record }
  | .setCounter id counter =>
    single PasskeyCredential (prepared 0)
      { integers := [counter, ctx.clock]
        write := .change (·.credentialId == id)
          fun r => { r with counter := counter, lastUsedAt := some ctx.clock }
        answer := .anyRow }
  | .get id =>
    single PasskeyCredential (prepared 0)
      { write := .select (·.credentialId == id), answer := .first PasskeyCredential.record }
  | .listForUser user =>
    single PasskeyCredential (prepared 0)
      { write := .select (·.userId == user)
        answer := fun rows =>
          .records ((rows.mergeSort listedBefore).map PasskeyCredential.record) }
  | .remove id user =>
    single PasskeyCredential (prepared 0)
      { write := .remove fun r => r.credentialId == id && r.userId == user
        answer := .anyRow }

theorem realizes (ctx : Context) (r : Request) :
    Realizes ((plan ctx r).map Plan.onTable) fun prepared => work ctx prepared r := by
  cases r with
  | register r transports =>
    refine Realizes.checked fun ts => ?_
    have same := Write.sameKey_eq PasskeyCredential.credentialId (fun _ => rfl)
      (fresh r ts ctx.clock)
    exact Realizes.upsert rfl (fun _ => rfl) same rfl (Answer.first_upsert _ same fun _ h => h)
  | setCounter id counter =>
    refine Realizes.change ?_ (fun _ _ => rfl) (Answer.anyRow_change _ _)
    simp [keysOf, Keyed.unique, Row.key]
  | get id => exact Realizes.select (fun _ _ => rfl) (Answer.first_filter _ _)
  | listForUser user => exact Realizes.select (fun _ _ => rfl) fun _ => rfl
  | remove id user => exact Realizes.remove (Answer.anyRow_filter _)

end PasskeyCredentials

/-! ## Enrollments -/

namespace Enrollments

variable {β : Type}

/-- Tells the nodes of an owner, and counts them. -/
def telling (owner : String) (now : Int) (answer : Nat → β) : Query Enrollment β where
  integers := [now]
  write := .change (·.ownerUserId == owner) (ownerVerified now)
  answer rows := answer rows.length

def getting (id : String) : Query Enrollment Answer where
  write := .select (·.nodeId == id)
  answer := .first Enrollment.record

/-- The node that was read, if the token is the one it was registered with. -/
def compareToken (raw : String) : Answer → Answer
  | .record (some (.enrollment e)) =>
    if sameText e.registrationTokenHash (Token.hash raw) then .record (some (.enrollment e))
    else .mismatch
  | a => a

/-- The token is compared once the node is read. -/
def checkWork (prepared : Bool) (id raw : String) : Work Answer := do
  let a ← single Enrollment prepared (getting id)
  Work.answer (compareToken raw a)

def work (ctx : Context) (prepared : Nat → Bool) : Request → Work Answer
  | .enroll id kind owner email hash verified =>
    checked (Choice.coerce "node kind" kind) fun k =>
      let new := fresh id k owner email hash verified ctx.clock
      single Enrollment (prepared 0)
        { integers := [ctx.clock]
          write := .upsert (renewed new) new
          expected := .one
          answer := .first Enrollment.record }
  | .approve id value =>
    single Enrollment (prepared 0)
      { integers := [ctx.clock]
        write := .change (·.nodeId == id) (approved value ctx.clock)
        answer := .first Enrollment.record }
  | .verifyOwner owner => single Enrollment (prepared 0) (telling owner ctx.clock .count)
  | .touch id form =>
    match patchOf form with
    | .ok patch =>
      single Enrollment (prepared 0)
        { integers := [ctx.clock]
          write := .change (·.nodeId == id) (touched patch ctx.clock)
          answer := .first Enrollment.record }
    | .error issues => refuse (.fault (.invalid issues))
  | .get id => single Enrollment (prepared 0) (getting id)
  | .listByOwner owner =>
    single Enrollment (prepared 0)
      { write := .select (·.ownerUserId == owner)
        answer := fun rows => .records ((rows.mergeSort listedBefore).map Enrollment.record) }
  | .checkToken id raw => checkWork (prepared 0) id raw

theorem keys_of_same {f : Enrollment → Enrollment} (hid : ∀ e, (f e).nodeId = e.nodeId) :
    ∀ key ∈ keysOf Enrollment, ∀ e, key (f e) = key e := by
  simp [keysOf, Keyed.unique, Row.key, hid]

/-- Whoever the nodes are, none of their keys changes. -/
theorem statement_telling {t : Tables} {now : Int} (fits : fitsWord now = true) (prepared : Bool)
    (owner : String) (answer : Nat → β) :
    statement prepared (telling owner now answer) (some t) =
      (some { t with enrollments := (verifyOwner owner now t.enrollments).1 },
        .ok (answer (verifyOwner owner now t.enrollments).2)) := by
  have bound : (telling owner now answer).integers.all fitsWord = true := by simp [telling, fits]
  refine (statement_of_sound bound (fun h => h.change (keys_of_same fun _ => rfl)) rfl).trans ?_
  simp [telling, Write.after, Write.returned, verifyOwner, List.countP_eq_length_filter,
    Placed.rows, Placed.withRows]

theorem realizes_getting (id : String) :
    Realizes (.ok (.onTable (.query (answer id))))
      fun prepared => single Enrollment (prepared 0) (getting id) :=
  Realizes.select (fun _ _ => rfl) (Answer.first_filter _ _)

theorem stored_answer (id : String) (rows : List Enrollment) : (answer id rows).Stored := by
  unfold answer
  cases find? id rows <;> trivial

theorem compareToken_answer (id raw : String) (rows : List Enrollment) :
    compareToken raw (answer id rows) = checkToken id raw rows := by
  unfold answer checkToken
  cases find? id rows <;> rfl

/-- A node is read whatever its token is compared with. -/
theorem realizes_checkWork (id raw : String) :
    Realizes (.ok (.onTable (.query (checkToken id raw))))
      fun prepared => checkWork (prepared 0) id raw where
  gone prepared := by
    have missing := (realizes_getting id).gone prepared
    exact (bind_of_error (missing.trans (Plan.outcome_transaction_none _ _ _))).trans
      (Plan.outcome_transaction_none _ _ _).symm
  comes prepared t ht _ := by
    have got := (realizes_getting id).comes prepared t ht fun u a he => by
      cases he
      exact stored_answer id t.enrollments
    refine (bind_of_ok got).trans ?_
    rw [compareToken_answer]
    rfl
  keeps t u a ht he := by
    cases he
    exact ht

theorem realizes (ctx : Context) (r : Request) :
    Realizes ((plan ctx r).map Plan.onTable) fun prepared => work ctx prepared r := by
  cases r with
  | enroll id kind owner email hash verified =>
    refine Realizes.checked fun k => ?_
    have same := Write.sameKey_eq Enrollment.nodeId (fun _ => rfl)
      (fresh id k owner email hash verified ctx.clock)
    exact Realizes.upsert rfl (fun _ => rfl) same rfl (Answer.first_upsert _ same fun _ h => h)
  | approve id value =>
    exact Realizes.change (keys_of_same fun _ => rfl) (fun _ _ => rfl)
      (Answer.first_change _ fun _ h => h)
  | verifyOwner owner =>
    refine Realizes.change (keys_of_same fun _ => rfl) (fun _ _ => rfl) ?_
    intro rows
    rw [List.length_map, ← List.countP_eq_length_filter]
  | touch id form =>
    simp only [plan, work]
    cases patchOf form with
    | error issues => exact Realizes.error _
    | ok patch =>
      exact Realizes.change (keys_of_same fun _ => rfl) (fun _ _ => rfl)
        (Answer.first_change _ fun _ h => h)
  | get id => exact realizes_getting id
  | listByOwner owner => exact Realizes.select (fun _ _ => rfl) fun _ => rfl
  | checkToken id raw => exact realizes_checkWork id raw

end Enrollments

/-! ## Accounts -/

namespace Accounts

/-- Marks an account as verified, and hands back its row. -/
def marking (id : String) (now : Int) : Query User (Option User) where
  integers := [now]
  write := .change (·.userId == id) (verified now)
  answer := List.head?

/-- Marks an account and then tells its nodes, if there is one. -/
def markThen (prepared : Bool) (id : String) (now : Int) (tell : Work Nat) : Work Answer := do
  match ← statement prepared (marking id now) with
  | none => Work.answer (.verified none 0)
  | some u =>
    let n ← tell
    Work.answer (.verified (some u) n)

/-- The account is marked and its nodes are told in one transaction. -/
def verifyWith (prepared : Bool) (id : String) (now : Int) (tell : Work Nat) : Work Answer := do
  let a ← transaction (markThen prepared id now tell)
  handBack a

def work (ctx : Context) (prepared : Nat → Bool) : Request → Work Answer
  | .create id email hash name verified =>
    single User (prepared 0)
      { integers := [ctx.clock]
        write := .insert (fresh id email hash name verified ctx.clock)
        expected := .one
        collision := .fault (.taken "user" "user id or email already registered")
        answer := .first User.record }
  | .get id =>
    single User (prepared 0) { write := .select (·.userId == id), answer := .first User.record }
  | .getByEmail email =>
    single User (prepared 0)
      { write := .select fun u => asciiLower u.email == normalizeEmail email
        answer := .first User.record }
  | .verifyEmail id =>
    verifyWith (prepared 0) id ctx.clock
      (statement (prepared 1) (Enrollments.telling id ctx.clock (·)))
  | .setPasswordHash id hash =>
    single User (prepared 0)
      { write := .change (·.userId == id) fun u => { u with passwordHash := some hash }
        answer := .anyRow }
  | .setDisplayName id name =>
    single User (prepared 0)
      { write := .change (·.userId == id) fun u => { u with displayName := name }
        answer := .anyRow }

/-- The accounts with the nodes, among all tables. -/
def onBoth : Plan (List User × List Enrollment) → Plan Tables :=
  Plan.on (fun t => (t.users, t.enrollments)) fun s t =>
    { t with users := s.1, enrollments := s.2 }

theorem onBoth_onUsers (plan : Plan (List User)) : onBoth (onUsers plan) = plan.onTable := by
  cases plan with
  | answered a => rfl
  | transaction integers body =>
    refine congrArg (Plan.transaction integers) (funext fun t => ?_)
    show ((body t.users).map _).map _ = (body t.users).map _
    cases body t.users <;> rfl

theorem realizes_onUsers {plan : Plan (List User)} {work : (Nat → Bool) → Work Answer}
    (h : Realizes (.ok plan.onTable) work) : Realizes (.ok (onBoth (onUsers plan))) work := by
  rw [onBoth_onUsers]
  exact h

theorem keys_of_same {f : User → User} (hid : ∀ u, (f u).userId = u.userId)
    (hemail : ∀ u, (f u).email = u.email) : ∀ key ∈ keysOf User, ∀ u, key (f u) = key u := by
  simp [keysOf, Keyed.unique, Row.key, hid, hemail]

section verification

variable {ctx : Context} {id : String} {now : Int} {t : Tables} {prepared : Bool}

/-- The row that is handed back is the user's, marked. -/
theorem statement_marking (fits : fitsWord now = true) (prepared : Bool) (id : String)
    (t : Tables) :
    statement prepared (marking id now) (some t) =
      (some { t with users := Rows.change (·.userId == id) (verified now) t.users },
        .ok ((find? id t.users).map (verified now))) := by
  have bound : (marking id now).integers.all fitsWord = true := by simp [marking, fits]
  refine (statement_of_sound bound
    (fun h => h.change (keys_of_same (fun _ => rfl) fun _ => rfl)) rfl).trans ?_
  simp [marking, Write.after, Write.returned, find?, List.head?_filter, Placed.rows,
    Placed.withRows]

/-- An unknown user is marked nowhere; a known one is marked, and then the nodes are told. -/
theorem markThen_some (fits : fitsWord now = true) (prepared prepared' : Bool) (id : String)
    (t : Tables) :
    markThen prepared id now (statement prepared' (Enrollments.telling id now (·))) (some t) =
      (some { t with
        users := (verifyEmail id now t.users t.enrollments).1.1
        enrollments := (verifyEmail id now t.users t.enrollments).1.2 },
        .ok (verifyEmail id now t.users t.enrollments).2) := by
  unfold markThen verifyEmail
  refine (bind_of_ok (statement_marking fits prepared id t)).trans ?_
  cases hfind : find? id t.users with
  | none =>
    have same : Rows.change (·.userId == id) (verified now) t.users = t.users :=
      Rows.change_eq_self fun u hu => by simpa using List.find?_eq_none.mp hfind u hu
    rw [same]
    rfl
  | some u => exact bind_of_ok (Enrollments.statement_telling fits prepared' id (·))

theorem stored_verifyEmail (id : String) (now : Int) (users : List User)
    (nodes : List Enrollment) : (verifyEmail id now users nodes).2.Stored := by
  unfold verifyEmail
  cases find? id users <;> trivial

theorem effect_verifyEmail (ctx : Context) (id : String) (t : Tables) :
    (Call.accounts (.verifyEmail id)).effect ctx t =
      if fitsWord ctx.clock then
        .ok ({ t with
          users := (verifyEmail id ctx.clock t.users t.enrollments).1.1
          enrollments := (verifyEmail id ctx.clock t.users t.enrollments).1.2 },
          (verifyEmail id ctx.clock t.users t.enrollments).2)
      else .error .integerOutOfRange :=
  Call.effect_of_update ctx (.accounts (.verifyEmail id)) rfl (fun _ => rfl) t

/-- The verification of an account, whatever the keys of the tables. -/
theorem verifyWith_eq (ctx : Context) (prepared : Nat → Bool) (id : String)
    (tables : Option Tables) :
    work ctx prepared (.verifyEmail id) tables =
      Plan.outcome (prepared 0) ((Call.accounts (.verifyEmail id)).plan ctx) tables := by
  cases tables with
  | none =>
    exact (bind_of_error (transaction_of_error (bind_of_error rfl))).trans
      (Plan.outcome_transaction_none _ _ _).symm
  | some t =>
    have effect := effect_verifyEmail ctx id t
    cases fits : fitsWord ctx.clock with
    | false =>
      rw [fits, if_neg Bool.false_ne_true] at effect
      have unfit : (marking id ctx.clock).integers.all fitsWord = false := by simp [marking, fits]
      rw [Plan.outcome_of_error effect]
      exact bind_of_error (transaction_of_error (bind_of_error (statement_of_unfit unfit)))
    | true =>
      rw [if_pos fits] at effect
      rw [Plan.outcome_of_ok effect]
      refine (bind_of_ok (transaction_of_ok (markThen_some fits _ _ id t))).trans ?_
      rw [handBack_of_stored (stored_verifyEmail id ctx.clock t.users t.enrollments)]
      rfl

theorem keysDiffer_verifyEmail (h : t.KeysDiffer) (id : String) (now : Int) :
    KeysDiffer (verifyEmail id now t.users t.enrollments).1.1 ∧
      KeysDiffer (verifyEmail id now t.users t.enrollments).1.2 := by
  unfold verifyEmail
  split
  · exact ⟨h.users, h.enrollments⟩
  · exact ⟨h.users.change (keys_of_same (fun _ => rfl) fun _ => rfl),
      h.enrollments.change (Enrollments.keys_of_same fun _ => rfl)⟩

end verification

theorem realizes (ctx : Context) (r : Request) :
    Realizes ((plan ctx r).map onBoth) fun prepared => work ctx prepared r := by
  cases r with
  | create id email hash name verified =>
    refine realizes_onUsers (Realizes.insert ?_ rfl rfl)
    intro u
    simp [keysOf, Keyed.unique, Row.key]
  | get id => exact realizes_onUsers (Realizes.select (fun _ _ => rfl) (Answer.first_filter _ _))
  | getByEmail email =>
    exact realizes_onUsers (Realizes.select (fun _ _ => rfl) (Answer.first_filter _ _))
  | verifyEmail id =>
    constructor
    · exact fun prepared => verifyWith_eq ctx prepared id none
    · exact fun prepared t _ _ => verifyWith_eq ctx prepared id (some t)
    · intro t u a h he
      have effect := effect_verifyEmail ctx id t
      rw [show (Call.accounts (.verifyEmail id)).effect ctx t = .ok (u, a) from he] at effect
      split at effect
      · cases effect
        obtain ⟨users, enrollments⟩ := keysDiffer_verifyEmail h id ctx.clock
        exact { h with users := users, enrollments := enrollments }
      · cases effect
  | setPasswordHash id hash =>
    exact realizes_onUsers (Realizes.change (keys_of_same (fun _ => rfl) fun _ => rfl)
      (fun _ _ => rfl) (Answer.anyRow_change _ _))
  | setDisplayName id name =>
    exact realizes_onUsers (Realizes.change (keys_of_same (fun _ => rfl) fun _ => rfl)
      (fun _ _ => rfl) (Answer.anyRow_change _ _))

end Accounts

/-! ## Calls -/

namespace Call

/-- Each ledger is purged in a transaction of its own. -/
def purgeWork (prepared : Nat → Bool) (now : Int) : Work Answer := do
  let sessions ← transaction (statement (prepared 0) (purging (Session.isLive now) now id))
  let emailTokens ← transaction (statement (prepared 1) (purging (EmailToken.isLive now) now id))
  let oauthStates ← transaction (statement (prepared 2) (purging (OAuthState.isLive now) now id))
  let passkeyChallenges ←
    transaction (statement (prepared 3) (purging (PasskeyChallenge.isLive now) now id))
  answer (.purged sessions emailTokens oauthStates passkeyChallenges)

/-- The work of a call, `prepared` telling of each of its statements whether its connection has
prepared it. -/
def work (ctx : Context) (prepared : Nat → Bool) : Call → Work Answer
  | .accounts r => Accounts.work ctx prepared r
  | .sessions r => Sessions.work ctx prepared r
  | .emailTokens r => EmailTokens.work ctx prepared r
  | .identityLinks r => IdentityLinks.work ctx prepared r
  | .oauthStates r => OAuthStates.work ctx prepared r
  | .enrollments r => Enrollments.work ctx prepared r
  | .wallets r => Wallets.work ctx prepared r
  | .passkeyChallenges r => PasskeyChallenges.work ctx prepared r
  | .passkeyCredentials r => PasskeyCredentials.work ctx prepared r
  | .purgeExpired => purgeWork prepared ctx.clock

/-- The first purge fails or all of them succeed, as they find the same clock. -/
theorem realizes_purgeWork (ctx : Context) :
    Realizes (Call.purgeExpired.plan ctx) fun prepared => purgeWork prepared ctx.clock where
  gone prepared :=
    (bind_of_error (transaction_of_error rfl)).trans (Plan.outcome_transaction_none _ _ _).symm
  comes prepared t _ _ := by
    have effect : Call.purgeExpired.effect ctx t =
        if [ctx.clock].all fitsWord then .ok (t.purge ctx.clock) else .error .integerOutOfRange :=
      Plan.effect_update [ctx.clock] (Tables.purge ctx.clock) t
    cases fits : fitsWord ctx.clock with
    | false =>
      have unfit : [ctx.clock].all fitsWord = false := by simp [fits]
      rw [unfit] at effect
      rw [Plan.outcome_of_error effect]
      exact bind_of_error (transaction_of_error (statement_of_unfit unfit))
    | true =>
      have bound : [ctx.clock].all fitsWord = true := by simp [fits]
      rw [bound] at effect
      rw [Plan.outcome_of_ok effect]
      refine (bind_of_ok (transaction_of_ok (statement_purging fits _ id))).trans ?_
      refine (bind_of_ok (transaction_of_ok (statement_purging fits _ id))).trans ?_
      refine (bind_of_ok (transaction_of_ok (statement_purging fits _ id))).trans ?_
      exact bind_of_ok (transaction_of_ok (statement_purging fits _ id))
  keeps t u a h he := by
    rw [plan, Plan.effectOf_ok, Plan.effect_update_eq_ok_iff] at he
    obtain ⟨-, rfl, -⟩ := he
    exact { h with
      sessions := h.sessions.remove
      emailTokens := h.emailTokens.remove
      oauthStates := h.oauthStates.remove
      passkeyChallenges := h.passkeyChallenges.remove }

/-- The work of a call comes to what the call plans. -/
theorem realizes (ctx : Context) (c : Call) :
    Realizes (c.plan ctx) fun prepared => c.work ctx prepared := by
  cases c with
  | accounts r => exact Accounts.realizes ctx r
  | sessions r => exact Sessions.realizes ctx r
  | emailTokens r => exact EmailTokens.realizes ctx r
  | identityLinks r => exact IdentityLinks.realizes ctx r
  | oauthStates r => exact OAuthStates.realizes ctx r
  | enrollments r => exact Enrollments.realizes ctx r
  | wallets r => exact Wallets.realizes ctx r
  | passkeyChallenges r => exact PasskeyChallenges.realizes ctx r
  | passkeyCredentials r => exact PasskeyCredentials.realizes ctx r
  | purgeExpired => exact realizes_purgeWork ctx

end Call

end AccountPortal

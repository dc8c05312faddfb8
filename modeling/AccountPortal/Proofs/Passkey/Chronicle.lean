import AccountPortal.Proofs.Passkey.Change
import AccountPortal.Proofs.Rows
import AccountPortal.Proofs.Since

/-!
# What a history makes of a credential

While the schema is kept, the history of a run determines whether a credential is there, whose it
is, and each of its columns. The latest registration stands until its user removes the credential;
it gives all the data but three columns: the date is that of the first registration since the
credential was last removed, and the counter and the time of use are those of the latest write of
either kind.

    standing? c h = none        → no row of `c`
    standing? c h = some last   → one row of `c`, which `FollowsHistory c h last`
                                                                     (credential_follows_history)
-/

namespace AccountPortal.PasskeyCredentials

/-! ## What an event tells of a credential -/

/-- The row that a registration of the credential brings. -/
def registration? (c : String) (e : Event) : Option PasskeyCredential :=
  match e.deed with
  | .call (.passkeyCredentials (.register r given)) (.ok _) =>
    if r.credentialId = c then
      (canonicalTransports given).toOption.map fun ts => fresh r ts e.clock
    else none
  | _ => none

/-- The counter and the time that a write of the credential brings. -/
def write? (c : String) (e : Event) : Option (Int × Int) :=
  match e.deed with
  | .call (.passkeyCredentials (.register r _)) (.ok _) =>
    if r.credentialId = c then some (r.counter, e.clock) else none
  | .call (.passkeyCredentials (.setCounter id counter)) (.ok (.flag true)) =>
    if id = c then some (counter, e.clock) else none
  | _ => none

/-- Whether the user asks for the removal of the credential, be it there or not. -/
def removes (c user : String) (e : Event) : Bool :=
  match e.deed with
  | .call (.passkeyCredentials (.remove id user')) (.ok _) => id == c && user' == user
  | _ => false

/-- Who removed the credential; a removal that found nothing to remove tells nothing. -/
def removal? (c : String) (e : Event) : Option String :=
  match e.deed with
  | .call (.passkeyCredentials (.remove id user)) (.ok (.flag true)) =>
    if id = c then some user else none
  | _ => none

/-- The latest registration, unless its user removed the credential since then. -/
def standing? (c : String) (h : List Event) : Option PasskeyCredential :=
  (latest (registration? c) h).filter fun last =>
    !(afterLatest (registration? c) h).any (removes c last.userId)

/-- The row of a credential that was registered as `last` in the end, column by column. -/
structure FollowsHistory (c : String) (h : List Event) (last r : PasskeyCredential) : Prop where
  credentialId : r.credentialId = c
  userId : r.userId = last.userId
  webauthnUserId : r.webauthnUserId = last.webauthnUserId
  publicKey : r.publicKey = last.publicKey
  deviceType : r.deviceType = last.deviceType
  backedUp : r.backedUp = last.backedUp
  transports : r.transports = last.transports
  createdAt :
    earliest (fun e => (registration? c e).map fun _ => e.clock) (afterLatest (removal? c) h) =
      some r.createdAt
  counter : latest (fun e => (write? c e).map Prod.fst) h = some r.counter
  lastUsedAt : latest (fun e => (write? c e).map Prod.snd) h = r.lastUsedAt

/-- What is found of a credential: nothing unless a registration stands, and then the row that the
history makes of it. -/
def Follows (c : String) (h : List Event) (found : Option PasskeyCredential) : Prop :=
  match standing? c h with
  | none => found = none
  | some last => ∃ r, found = some r ∧ FollowsHistory c h last r

/-- The rows of a credential. -/
def ofCredential (c : String) (rows : List PasskeyCredential) : List PasskeyCredential :=
  rows.filter (·.credentialId == c)

/-! ## Rows -/

/-- What setting the counter makes of a row. -/
def counted (counter now : Int) (r : PasskeyCredential) : PasskeyCredential :=
  { r with counter := counter, lastUsedAt := some now }

section rows

variable {c id user : String} {rows : List PasskeyCredential}

theorem find?_eq_head? (c : String) (rows : List PasskeyCredential) :
    find? c rows = (ofCredential c rows).head? := by
  unfold find? ofCredential
  rw [List.head?_filter]

theorem ofCredential_register (c : String) (rows : List PasskeyCredential)
    (new : PasskeyCredential) :
    ofCredential c (register new rows).1 =
      if new.credentialId = c then
        if ofCredential c rows = [] then [new] else (ofCredential c rows).map (renewed new)
      else ofCredential c rows := by
  split
  · next hid =>
    subst hid
    exact Rows.filter_key_upsert (f := renewed new) PasskeyCredential.credentialId
      (fun _ => rfl) rfl
  · next hid =>
    exact Rows.filter_key_upsert_of_ne (f := renewed new) PasskeyCredential.credentialId
      (fun _ => rfl) rfl hid

theorem ofCredential_setCounter (c id : String) (rows : List PasskeyCredential)
    (counter now : Int) :
    ofCredential c (setCounter id counter now rows).1 =
      if id = c then (ofCredential c rows).map (counted counter now)
      else ofCredential c rows := by
  split
  · next hid =>
    subst hid
    exact Rows.filter_key_change (f := counted counter now) PasskeyCredential.credentialId
      (fun _ => rfl) id
  · next hid =>
    exact Rows.filter_key_change_of_ne (f := counted counter now) PasskeyCredential.credentialId
      (fun _ => rfl) hid

theorem ofCredential_remove (c id user : String) (rows : List PasskeyCredential) :
    ofCredential c (remove id user rows).1 =
      if id = c then (ofCredential c rows).filter (·.userId != user) else ofCredential c rows := by
  unfold remove
  rw [ofCredential, Rows.filter_remove]
  split
  · next hid =>
    apply List.filter_congr
    intro r hr
    have known : (r.credentialId == c) = true := (List.mem_filter.mp hr).2
    simp only [hid, known, Bool.true_and]
    rfl
  · next hid =>
    apply Rows.remove_eq_self
    intro r hr
    have other : (r.credentialId == id) = false := by
      rw [eq_of_beq (List.mem_filter.mp hr).2, beq_eq_false_iff_ne]
      exact fun same => hid same.symm
    rw [other, Bool.false_and]

theorem any_owned :
    rows.any (fun r => r.credentialId == c && r.userId == user) =
      (ofCredential c rows).any (·.userId == user) := by
  rw [ofCredential, List.any_filter]

end rows

/-! ## One more event -/

variable {c : String} {h : List Event} {e : Event} {last r : PasskeyCredential}

theorem standing?_concat (c : String) (h : List Event) (e : Event) :
    standing? c (h ++ [e]) =
      (registration? c e).or ((standing? c h).filter fun last => !removes c last.userId e) := by
  unfold standing?
  rw [latest_concat, afterLatest_concat]
  cases registration? c e with
  | some new => rfl
  | none =>
    rw [Option.none_or, Option.none_or, if_neg (by simp), Option.filter_filter]
    congr 1
    funext last
    simp

/-- An event that neither registers nor removes the credential writes what it tells of it. -/
theorem FollowsHistory.concat (r' : PasskeyCredential) (hf : FollowsHistory c h last r)
    (hrem : removal? c e = none)
    (same : r'.credentialId = r.credentialId ∧ r'.userId = r.userId ∧
      r'.webauthnUserId = r.webauthnUserId ∧ r'.publicKey = r.publicKey ∧
      r'.deviceType = r.deviceType ∧ r'.backedUp = r.backedUp ∧ r'.transports = r.transports ∧
      r'.createdAt = r.createdAt)
    (hcounter : r'.counter = ((write? c e).map Prod.fst).getD r.counter)
    (hused : r'.lastUsedAt = ((write? c e).map Prod.snd).or r.lastUsedAt) :
    FollowsHistory c (h ++ [e]) last r' := by
  obtain ⟨hid, huser, hwebauthn, hkey, hdevice, hbacked, htransports, hcreated⟩ := same
  refine
    { credentialId := hid.trans hf.credentialId
      userId := huser.trans hf.userId
      webauthnUserId := hwebauthn.trans hf.webauthnUserId
      publicKey := hkey.trans hf.publicKey
      deviceType := hdevice.trans hf.deviceType
      backedUp := hbacked.trans hf.backedUp
      transports := htransports.trans hf.transports
      createdAt := ?_, counter := ?_, lastUsedAt := ?_ }
  · rw [afterLatest_concat, hrem, if_neg (by simp), earliest_concat, hf.createdAt, hcreated]
    rfl
  · rw [latest_concat, hf.counter, hcounter]
    cases write? c e <;> rfl
  · rw [latest_concat, hf.lastUsedAt, hused]

/-- A registration of a credential that is there keeps its date. -/
theorem FollowsHistory.concat_register {new : PasskeyCredential} (hf : FollowsHistory c h last r)
    (hrem : removal? c e = none) (hwrite : write? c e = some (new.counter, e.clock))
    (hused : new.lastUsedAt = some e.clock) :
    FollowsHistory c (h ++ [e]) new (renewed new r) := by
  refine
    { credentialId := hf.credentialId, userId := rfl, webauthnUserId := rfl, publicKey := rfl
      deviceType := rfl, backedUp := rfl, transports := rfl
      createdAt := ?_, counter := ?_, lastUsedAt := ?_ }
  · rw [afterLatest_concat, hrem, if_neg (by simp), earliest_concat, hf.createdAt]
    rfl
  · rw [latest_concat, hwrite]
    rfl
  · rw [latest_concat, hwrite]
    exact hused.symm

/-- The first registration of a credential, or the first since it was removed. -/
theorem followsHistory_first {new : PasskeyCredential} (hid : new.credentialId = c)
    (unregistered : earliest (registration? c) (afterLatest (removal? c) h) = none)
    (hreg : registration? c e = some new) (hrem : removal? c e = none)
    (hwrite : write? c e = some (new.counter, e.clock)) (hcreated : new.createdAt = e.clock)
    (hused : new.lastUsedAt = some e.clock) : FollowsHistory c (h ++ [e]) new new := by
  refine
    { credentialId := hid, userId := rfl, webauthnUserId := rfl, publicKey := rfl
      deviceType := rfl, backedUp := rfl, transports := rfl
      createdAt := ?_, counter := ?_, lastUsedAt := ?_ }
  · rw [afterLatest_concat, hrem, if_neg (by simp), earliest_concat,
      earliest_map_of_none (fun e _ => e.clock) unregistered, hreg, hcreated]
    rfl
  · rw [latest_concat, hwrite]
    rfl
  · rw [latest_concat, hwrite]
    exact hused.symm

/-! ## Rows that follow -/

/-- A credential of which no registration stands has no row, and was not registered since it was
last removed; another has one row. -/
def Tracks (c : String) (h : List Event) (rows : List PasskeyCredential) : Prop :=
  match standing? c h with
  | none =>
    ofCredential c rows = [] ∧ earliest (registration? c) (afterLatest (removal? c) h) = none
  | some last => ∃ r, ofCredential c rows = [r] ∧ FollowsHistory c h last r

variable {rows rows' : List PasskeyCredential}

theorem Tracks.of_absent (absent : standing? c h = none) (nothing : ofCredential c rows = [])
    (unregistered : earliest (registration? c) (afterLatest (removal? c) h) = none) :
    Tracks c h rows := by
  unfold Tracks
  rw [absent]
  exact ⟨nothing, unregistered⟩

theorem Tracks.of_present (present : standing? c h = some last) (hr : ofCredential c rows = [r])
    (hf : FollowsHistory c h last r) : Tracks c h rows := by
  unfold Tracks
  rw [present]
  exact ⟨r, hr, hf⟩

theorem Tracks.cases (tracks : Tracks c h rows) :
    (standing? c h = none ∧ ofCredential c rows = [] ∧
      earliest (registration? c) (afterLatest (removal? c) h) = none) ∨
    ∃ last r, standing? c h = some last ∧ ofCredential c rows = [r] ∧
      FollowsHistory c h last r := by
  unfold Tracks at tracks
  cases present : standing? c h with
  | none =>
    rw [present] at tracks
    exact Or.inl ⟨rfl, tracks⟩
  | some last =>
    rw [present] at tracks
    obtain ⟨r, hr, hf⟩ := tracks
    exact Or.inr ⟨last, r, rfl, hr, hf⟩

/-- What is found of a credential of which a registration stands. -/
theorem Follows.exists_row {found : Option PasskeyCredential} (follows : Follows c h found)
    (stands : standing? c h = some last) : ∃ r, found = some r ∧ FollowsHistory c h last r := by
  rwa [Follows, stands] at follows

/-- What is found is the one row, or nothing. -/
theorem Tracks.follows (tracks : Tracks c h rows) :
    ∃ found : Option PasskeyCredential, ofCredential c rows = found.toList ∧
      find? c rows = found ∧ Follows c h found := by
  rw [find?_eq_head?]
  unfold Follows
  rcases tracks.cases with ⟨absent, nothing, -⟩ | ⟨last, r, present, hr, hf⟩
  · rw [absent, nothing]
    exact ⟨none, rfl, rfl, rfl⟩
  · rw [present, hr]
    exact ⟨some r, rfl, rfl, r, rfl, hf⟩

/-- The user of the registration that stands is the user of the row. -/
theorem Tracks.any_owned (tracks : Tracks c h rows) (user : String) :
    rows.any (fun r => r.credentialId == c && r.userId == user) =
      (standing? c h).any (·.userId == user) := by
  rw [PasskeyCredentials.any_owned]
  rcases tracks.cases with ⟨absent, nothing, -⟩ | ⟨last, r, present, hr, hf⟩
  · rw [absent, nothing]
    rfl
  · rw [present, hr]
    simp [hf.userId]

/-- An event that does not concern the credential. -/
theorem Tracks.silent (tracks : Tracks c h rows) (hreg : registration? c e = none)
    (hwrite : write? c e = none) (hrem : removal? c e = none)
    (kept : ∀ last, standing? c h = some last → removes c last.userId e = false)
    (same : ofCredential c rows' = ofCredential c rows) : Tracks c (h ++ [e]) rows' := by
  have stands : standing? c (h ++ [e]) = standing? c h := by
    rw [standing?_concat, hreg, Option.none_or]
    cases known : standing? c h with
    | none => rfl
    | some last => simp [Option.filter, kept last known]
  rcases tracks.cases with ⟨absent, nothing, unregistered⟩ | ⟨last, r, present, hr, hf⟩
  · refine .of_absent (stands.trans absent) (same.trans nothing) ?_
    rw [afterLatest_concat, hrem, if_neg (by simp), earliest_concat, unregistered, hreg]
    rfl
  · refine .of_present (stands.trans present) (same.trans hr) ?_
    exact hf.concat r hrem ⟨rfl, rfl, rfl, rfl, rfl, rfl, rfl, rfl⟩ (by simp [hwrite])
      (by simp [hwrite])

theorem Tracks.register {reg : Registration} {given : Value} {ts : Option (List Transport)}
    {a : Answer} (tracks : Tracks c h rows) (canonical : canonicalTransports given = .ok ts)
    (hdeed : e.deed = .call (.passkeyCredentials (.register reg given)) (.ok a)) :
    Tracks c (h ++ [e]) (PasskeyCredentials.register (fresh reg ts e.clock) rows).1 := by
  have hrem : removal? c e = none := by simp [removal?, hdeed]
  by_cases hid : reg.credentialId = c
  · have hreg : registration? c e = some (fresh reg ts e.clock) := by
      simp [registration?, hdeed, hid, canonical, Except.toOption]
    have hwrite : write? c e = some (reg.counter, e.clock) := by simp [write?, hdeed, hid]
    have stands : standing? c (h ++ [e]) = some (fresh reg ts e.clock) := by
      rw [standing?_concat, hreg]
      rfl
    have hrows := ofCredential_register c rows (fresh reg ts e.clock)
    rw [if_pos (show (fresh reg ts e.clock).credentialId = c from hid)] at hrows
    rcases tracks.cases with ⟨-, nothing, unregistered⟩ | ⟨last, r, -, hr, hf⟩
    · rw [if_pos nothing] at hrows
      exact .of_present stands hrows
        (followsHistory_first hid unregistered hreg hrem hwrite rfl rfl)
    · rw [hr, if_neg (List.cons_ne_nil r [])] at hrows
      exact .of_present stands hrows (hf.concat_register hrem hwrite rfl)
  · have hrows := ofCredential_register c rows (fresh reg ts e.clock)
    rw [if_neg (show (fresh reg ts e.clock).credentialId ≠ c from hid)] at hrows
    exact tracks.silent (by simp [registration?, hdeed, hid]) (by simp [write?, hdeed, hid]) hrem
      (fun _ _ => by simp [removes, hdeed]) hrows

theorem Tracks.setCounter {id : String} {counter : Int} (tracks : Tracks c h rows)
    (hdeed : e.deed = .call (.passkeyCredentials (.setCounter id counter))
      (.ok (PasskeyCredentials.setCounter id counter e.clock rows).2)) :
    Tracks c (h ++ [e]) (PasskeyCredentials.setCounter id counter e.clock rows).1 := by
  have hreg : registration? c e = none := by simp [registration?, hdeed]
  have hrem : removal? c e = none := by simp [removal?, hdeed]
  have kept : ∀ user, removes c user e = false := fun user => by simp [removes, hdeed]
  have hrows := ofCredential_setCounter c id rows counter e.clock
  by_cases hid : id = c
  · subst hid
    rw [if_pos rfl] at hrows
    have answered : (PasskeyCredentials.setCounter id counter e.clock rows).2 =
        .flag !(ofCredential id rows).isEmpty :=
      congrArg Answer.flag (Rows.any_eq_not_isEmpty_filter _ rows)
    rcases tracks.cases with ⟨absent, nothing, unregistered⟩ | ⟨last, r, present, hr, hf⟩
    · rw [nothing] at hrows answered
      rw [answered] at hdeed
      exact tracks.silent hreg (by simp [write?, hdeed]) hrem (fun _ _ => kept _)
        (hrows.trans nothing.symm)
    · rw [hr] at hrows answered
      rw [answered] at hdeed
      have hwrite : write? id e = some (counter, e.clock) := by simp [write?, hdeed]
      have stands : standing? id (h ++ [e]) = some last := by
        rw [standing?_concat, hreg, present]
        simp [Option.filter, kept]
      refine .of_present stands hrows ?_
      exact hf.concat (counted counter e.clock r) hrem ⟨rfl, rfl, rfl, rfl, rfl, rfl, rfl, rfl⟩
        (by rw [hwrite]; rfl) (by rw [hwrite]; rfl)
  · rw [if_neg hid] at hrows
    have other : write? c e = none := by
      obtain ⟨b, answered⟩ : ∃ b, (PasskeyCredentials.setCounter id counter e.clock rows).2 =
        .flag b := ⟨_, rfl⟩
      rw [answered] at hdeed
      cases b <;> simp [write?, hdeed, hid]
    exact tracks.silent hreg other hrem (fun _ _ => kept _) hrows

/-- Only the user of the registration that stands removes the credential. -/
theorem Tracks.remove {id user : String} (tracks : Tracks c h rows)
    (hdeed : e.deed = .call (.passkeyCredentials (.remove id user))
      (.ok (PasskeyCredentials.remove id user rows).2)) :
    Tracks c (h ++ [e]) (PasskeyCredentials.remove id user rows).1 := by
  have hreg : registration? c e = none := by simp [registration?, hdeed]
  have hwrite : write? c e = none := by simp [write?, hdeed]
  have hrows := ofCredential_remove c id user rows
  by_cases hid : id = c
  · subst hid
    rw [if_pos rfl] at hrows
    have answered : (PasskeyCredentials.remove id user rows).2 =
        .flag ((standing? id h).any (·.userId == user)) :=
      congrArg Answer.flag (tracks.any_owned user)
    rw [answered] at hdeed
    by_cases owned : (standing? id h).any (·.userId == user) = true
    · -- the user whose it is: the row goes, and no registration is left since then
      rw [owned] at hdeed
      have hrem : removal? id e = some user := by simp [removal?, hdeed]
      rcases tracks.cases with ⟨absent, -, -⟩ | ⟨last, r, present, hr, hf⟩
      · rw [absent] at owned
        cases owned
      · rw [present, Option.any_some, beq_iff_eq] at owned
        refine .of_absent ?_ ?_ ?_
        · rw [standing?_concat, hreg, present]
          simp [Option.filter, removes, hdeed, owned]
        · rw [hrows, hr]
          simp [hf.userId, owned]
        · rw [afterLatest_concat, hrem]
          rfl
    · rw [Bool.not_eq_true] at owned
      rw [owned] at hdeed
      refine tracks.silent hreg hwrite (by simp [removal?, hdeed]) ?_ ?_
      · intro last present
        rw [present, Option.any_some, beq_eq_false_iff_ne] at owned
        simpa [removes, hdeed] using fun same => owned same.symm
      · rw [hrows, List.filter_eq_self]
        intro r hr
        have other : (ofCredential id rows).any (·.userId == user) = false := by
          rw [← PasskeyCredentials.any_owned, tracks.any_owned user, owned]
        simpa using List.any_eq_false.mp other r hr
  · rw [if_neg hid] at hrows
    have other : removal? c e = none := by
      obtain ⟨b, answered⟩ : ∃ b, (PasskeyCredentials.remove id user rows).2 = .flag b := ⟨_, rfl⟩
      rw [answered] at hdeed
      cases b <;> simp [removal?, hdeed, hid]
    exact tracks.silent hreg hwrite other (fun _ _ => by simp [removes, hdeed, hid]) hrows

/-! ## Courses -/

variable {settings : Settings} {t u : Tables} {now : Int}

theorem Tracks.answered {request : Request} {a : Answer} (tracks : Tracks c h rows)
    (hdeed : e.deed = .call (.passkeyCredentials request) (.ok a))
    (made : Answered e.clock rows request rows' a) : Tracks c (h ++ [e]) rows' := by
  cases made with
  | register canonical => exact tracks.register canonical hdeed
  | setCounter id counter => exact tracks.setCounter hdeed
  | remove id user => exact tracks.remove hdeed
  | get id =>
    exact tracks.silent (by simp [registration?, hdeed]) (by simp [write?, hdeed])
      (by simp [removal?, hdeed]) (fun _ _ => by simp [removes, hdeed]) rfl
  | listForUser user =>
    exact tracks.silent (by simp [registration?, hdeed]) (by simp [write?, hdeed])
      (by simp [removal?, hdeed]) (fun _ _ => by simp [removes, hdeed]) rfl

theorem Tracks.step (tracks : Tracks c h t.passkeyCredentials)
    (moves : e.Moves settings (some t) (some u)) : Tracks c (h ++ [e]) u.passkeyCredentials := by
  rcases credentials_of_moves moves with ⟨r, a, hdeed, made⟩ | ⟨same, other⟩
  · exact tracks.answered hdeed made
  · refine tracks.silent ?_ ?_ ?_ (fun _ _ => ?_) (by rw [same])
    · unfold registration?
      split
      · next hdeed => exact absurd hdeed (other _ _)
      · rfl
    · unfold write?
      split
      · next hdeed => exact absurd hdeed (other _ _)
      · next hdeed => exact absurd hdeed (other _ _)
      · rfl
    · unfold removal?
      split
      · next hdeed => exact absurd hdeed (other _ _)
      · rfl
    · unfold removes
      split
      · next hdeed => exact absurd hdeed (other _ _)
      · rfl

/-- While the schema is kept the rows of a credential follow the history. -/
theorem tracks_of_course {tables : Option Tables} (course : Course settings (some .empty) h tables)
    (kept : ∀ e ∈ h, e.deed ≠ .dropSchema) :
    ∃ t, tables = some t ∧ Tracks c h t.passkeyCredentials :=
  course.tracked (P := fun h t => Tracks c h t.passkeyCredentials) ⟨rfl, rfl⟩
    (fun _ _ _ _ tracks moves => tracks.step moves) kept

/-! ## Calls -/

theorem effect_get (ctx : Context) (c : String) (t : Tables) :
    (Call.passkeyCredentials (.get c)).effect ctx t = .ok (t, answer c t.passkeyCredentials) :=
  rfl

theorem effect_remove (ctx : Context) (c user : String) (t : Tables) :
    (Call.passkeyCredentials (.remove c user)).effect ctx t =
      .ok ({ t with passkeyCredentials := (remove c user t.passkeyCredentials).1 },
        (remove c user t.passkeyCredentials).2) :=
  rfl

/-- A look-up is answered with what follows from the history. -/
theorem Tracks.answer (tracks : Tracks c h rows) :
    ∃ found : Option PasskeyCredential, ofCredential c rows = found.toList ∧
      PasskeyCredentials.answer c rows = .record (found.map PasskeyCredential.record) ∧
      Follows c h found := by
  obtain ⟨found, hrows, hfound, follows⟩ := tracks.follows
  refine ⟨found, hrows, ?_, follows⟩
  rw [PasskeyCredentials.answer, hfound]

/-- A removal is answered by whose the credential is by the history. -/
theorem Tracks.remove_answer (tracks : Tracks c h rows) (user : String) :
    (PasskeyCredentials.remove c user rows).2 =
      .flag ((standing? c h).any (·.userId == user)) :=
  congrArg Answer.flag (tracks.any_owned user)

/-- A removal that finds nothing leaves the tables. -/
theorem tables_of_remove_false {p : Portal} {conn : Connection} {user : String}
    (h : (p.attempt conn (.passkeyCredentials (.remove c user))).2 = .ok (.flag false)) :
    (p.attempt conn (.passkeyCredentials (.remove c user))).1 = p.tables := by
  cases there : p.tables with
  | none => exact (Portal.attempt_none there conn _).1
  | some t =>
    rw [Portal.attempt_eq_of_effect_ok there conn (effect_remove _ c user t)] at h ⊢
    have nothing : t.passkeyCredentials.any
        (fun r => r.credentialId == c && r.userId == user) = false :=
      Answer.flag.inj (Except.ok.inj h)
    have same : (PasskeyCredentials.remove c user t.passkeyCredentials).1 =
        t.passkeyCredentials :=
      Rows.remove_eq_self fun r hr => Bool.eq_false_iff.mpr (List.any_eq_false.mp nothing r hr)
    rw [same]

end AccountPortal.PasskeyCredentials

namespace AccountPortal

open PasskeyCredentials

/-- While the schema is kept, a look-up of a credential after the run, or within it, finds nothing
unless a registration of it stands, and then the one row that the history makes of it. A removal is
answered with true to the user of that registration and with false to anyone else, and then it
changes no table. -/
theorem credential_follows_history (settings : Settings) (clock : Int) (steps : List Portal.Step)
    (kept : .dropSchema ∉ steps) (c : String) :
    let p := Portal.fresh settings clock
    let q := (p.run steps).1
    (∃ t found, q.tables = some t ∧ ofCredential c t.passkeyCredentials = found.toList ∧
      (q.call (.passkeyCredentials (.get c))).2.outcome =
        .ok (.record (found.map PasskeyCredential.record)) ∧
      Follows c (p.history steps) found) ∧
    (∀ passed now out rest,
      p.history steps = passed ++ ⟨now, .call (.passkeyCredentials (.get c)) out⟩ :: rest →
      ∃ found : Option PasskeyCredential, out = .ok (.record (found.map PasskeyCredential.record)) ∧
        Follows c passed found) ∧
    (∀ user, (q.call (.passkeyCredentials (.remove c user))).2.outcome =
      .ok (.flag ((standing? c (p.history steps)).any (·.userId == user)))) ∧
    (∀ passed now user out rest,
      p.history steps =
        passed ++ ⟨now, .call (.passkeyCredentials (.remove c user)) out⟩ :: rest →
      out = .ok (.flag ((standing? c passed).any (·.userId == user)))) ∧
    ∀ (s : Portal) conn user,
      (s.attempt conn (.passkeyCredentials (.remove c user))).2 = .ok (.flag false) →
      (s.attempt conn (.passkeyCredentials (.remove c user))).1 = s.tables := by
  intro p q
  have course : Course settings (some .empty) (p.history steps) q.tables := p.run_course steps
  have keeps := p.kept_of_not_mem kept
  obtain ⟨t, there, tracks⟩ := tracks_of_course (c := c) course keeps
  have passing : ∀ {passed e rest}, p.history steps = passed ++ e :: rest →
      ∃ t after, Tracks c passed t.passkeyCredentials ∧ e.Moves settings (some t) after := by
    intro passed e rest heq
    obtain ⟨before, after, first, keeps, moves⟩ := course.kept_before keeps heq
    obtain ⟨t, rfl, tracks⟩ := tracks_of_course (c := c) first keeps
    exact ⟨t, after, tracks, moves⟩
  refine ⟨?_, ?_, ?_, ?_, fun s conn user h => tables_of_remove_false h⟩
  · obtain ⟨found, hrows, answered, follows⟩ := tracks.answer
    refine ⟨t, found, there, hrows, ?_, follows⟩
    rw [Portal.outcome_of_effect_ok there (effect_get _ c t), answered]
  · intro passed now out rest heq
    obtain ⟨t, after, tracks, moves⟩ := passing heq
    obtain ⟨found, -, answered, follows⟩ := tracks.answer
    refine ⟨found, ?_, follows⟩
    rw [(Event.eq_of_moves moves (effect_get _ c t)).2, answered]
  · intro user
    rw [Portal.outcome_of_effect_ok there (effect_remove _ c user t), tracks.remove_answer]
  · intro passed now user out rest heq
    obtain ⟨t, after, tracks, moves⟩ := passing heq
    rw [(Event.eq_of_moves moves (effect_remove _ c user t)).2, tracks.remove_answer]

/-- A credential that changes hands, is removed by its new user and not by the old one, and is
registered again with the clock turned back. -/
theorem credential_registered_again_after_removal :
    let reg (user : String) (counter : Int) : Call := .passkeyCredentials
      (.register ⟨"c", user, "w", "k", counter, "multi", false⟩ (.list []))
    let remove (user : String) : Call := .passkeyCredentials (.remove "c" user)
    let steps : List Portal.Step :=
      [.call (reg "u" 1), .advance 5, .call (reg "v" 2), .call (remove "u"), .call (remove "v"),
        .advance (-7), .call (reg "u" 3), .advance 1,
        .call (.passkeyCredentials (.setCounter "c" 9)), .call (remove "v")]
    let p := Portal.fresh .standard 0
    let q := (p.run steps).1
    .dropSchema ∉ steps ∧ ∃ t r, q.tables = some t ∧
      ofCredential "c" t.passkeyCredentials = [r] ∧
      (q.call (.passkeyCredentials (.get "c"))).2.outcome = .ok (.record (some r.record)) ∧
      r.userId = "u" ∧ r.createdAt = -2 ∧ r.counter = 9 ∧ r.lastUsedAt = some (-1) ∧
      (q.call (remove "v")).2.outcome = .ok (.flag false) ∧
      (q.call (remove "u")).2.outcome = .ok (.flag true) := by
  intro reg remove steps p q
  have kept : .dropSchema ∉ steps := by simp [steps]
  have law := credential_follows_history .standard 0 steps kept "c"
  dsimp only at law
  -- the history is computed where it is asked for, and is a name everywhere else
  generalize happened : (Portal.fresh .standard 0).history steps = h at law
  obtain ⟨⟨t, found, there, hrows, answered, follows⟩, -, removal, -⟩ := law
  have stands : standing? "c" h =
      some (fresh ⟨"c", "u", "w", "k", 3, "multi", false⟩ (some []) (-2)) := by
    simp only [← happened, steps, reg, remove]
    rfl
  have created : earliest (fun e => (registration? "c" e).map fun _ => e.clock)
      (afterLatest (removal? "c") h) = some (-2) := by
    simp only [← happened, steps, reg, remove]
    rfl
  have counter : latest (fun e => (write? "c" e).map Prod.fst) h = some 9 := by
    simp only [← happened, steps, reg, remove]
    rfl
  have used : latest (fun e => (write? "c" e).map Prod.snd) h = some (-1) := by
    simp only [← happened, steps, reg, remove]
    rfl
  obtain ⟨r, rfl, hf⟩ := follows.exists_row stands
  rw [stands] at removal
  exact ⟨kept, t, r, there, hrows, answered, hf.userId,
    Option.some.inj (hf.createdAt.symm.trans created),
    Option.some.inj (hf.counter.symm.trans counter), hf.lastUsedAt.symm.trans used,
    removal "v", removal "u"⟩

end AccountPortal

import AccountPortal.Proofs.History
import AccountPortal.Proofs.Rows
import AccountPortal.Proofs.Since

/-!
# What a history makes of a wallet

While the schema is kept, the first creation of a user's wallet that is answered decides its data
for good, and the first acknowledgement after it the time of acknowledgement:

    earliest (creation? u) h = none         → no row of `u`
    earliest (creation? u) h = some first   → one row of `u`, which `FollowsHistory … h first`
                                                                              (chronicle_of_run)
-/

namespace AccountPortal.Wallets

/-! ## What an event tells of a wallet -/

/-- What the creation of a wallet brings, and when. -/
structure Creation where
  accountId : String
  seedPhraseHash : String
  encryptedPrivateKeyRef : String
  network : Option String
  clock : Int

/-- A creation of the user's wallet that is answered, with whichever answer. -/
def creation? (user : String) (e : Event) : Option Creation :=
  match e.deed with
  | .call (.wallets (.create owner account seed key network)) (.ok _) =>
    if owner = user then some ⟨account, seed, key, network, e.clock⟩ else none
  | _ => none

/-- When the user's wallet is acknowledged, be it there or not. -/
def acknowledgement? (user : String) (e : Event) : Option Int :=
  match e.deed with
  | .call (.wallets (.acknowledge owner)) (.ok _) => if owner = user then some e.clock else none
  | _ => none

/-- The row of a wallet that was created as `first`, column by column. -/
structure FollowsHistory (settings : Settings) (user : String) (h : List Event) (first : Creation)
    (w : Wallet) : Prop where
  userId : w.userId = user
  accountId : w.accountId = first.accountId
  network :
    w.network =
      match first.network with
      | none | some "" => Choice.text settings.walletDefaultNetwork
      | some name => name
  seedPhraseHash : w.seedPhraseHash = first.seedPhraseHash
  encryptedPrivateKeyRef : w.encryptedPrivateKeyRef = first.encryptedPrivateKeyRef
  createdAt : w.createdAt = first.clock
  acknowledgedAt :
    w.acknowledgedAt = earliest (acknowledgement? user) (afterEarliest (creation? user) h)

/-- What is found of a user's wallet: nothing before a creation is answered, and then the row that
the history makes of the first creation. -/
def Follows (settings : Settings) (user : String) (h : List Event) (found : Option Wallet) : Prop :=
  match earliest (creation? user) h with
  | none => found = none
  | some first => ∃ w, found = some w ∧ FollowsHistory settings user h first w

/-- The rows of a user. -/
def ofUser (user : String) (rows : List Wallet) : List Wallet := rows.filter (·.userId == user)

/-- The row that a creation adds. -/
def created (settings : Settings) (user : String) (c : Creation) : Wallet :=
  ⟨user, c.accountId, networkOf settings c.network, c.seedPhraseHash, c.encryptedPrivateKeyRef,
    c.clock, none⟩

/-! ## Rows -/

section rows

variable {user owner : String} {rows : List Wallet} {new : Wallet}

theorem networkOf_eq (settings : Settings) (given : Option String) :
    networkOf settings given =
      match given with
      | none | some "" => Choice.text settings.walletDefaultNetwork
      | some name => name := by
  unfold networkOf
  split
  · rfl
  · rfl
  · next name nonempty =>
    have kept : (some name).filter (· != "") = some name := by
      rw [Option.filter_some, if_pos]
      simpa using nonempty
    rw [kept]
    rfl

theorem find?_eq_head? (user : String) (rows : List Wallet) :
    find? user rows = (ofUser user rows).head? := by
  unfold find? ofUser
  rw [List.head?_filter]

theorem insert_answer : (insert new rows).2 = .flag (ofUser new.userId rows).isEmpty := by
  have known := Rows.any_eq_not_isEmpty_filter (·.userId == new.userId) rows
  unfold insert ofUser
  rw [known]
  cases (rows.filter (·.userId == new.userId)).isEmpty <;> rfl

/-- A user's wallet is kept by a change that changes nothing. -/
theorem insert_rows : (insert new rows).1 = Rows.upsert (·.userId == new.userId) id new rows := by
  have same : Rows.change (·.userId == new.userId) id rows = rows := by simp [Rows.change]
  unfold insert Rows.upsert
  rw [same]
  split <;> rfl

theorem ofUser_insert (new : Wallet) (rows : List Wallet) :
    ofUser new.userId (insert new rows).1 =
      if ofUser new.userId rows = [] then [new] else ofUser new.userId rows := by
  have upserted : ofUser new.userId (Rows.upsert (·.userId == new.userId) id new rows) =
      if ofUser new.userId rows = [] then [new] else (ofUser new.userId rows).map id :=
    Rows.filter_key_upsert Wallet.userId (fun _ => rfl) rfl
  rw [insert_rows, upserted, List.map_id]

theorem ofUser_insert_of_ne (h : new.userId ≠ user) :
    ofUser user (insert new rows).1 = ofUser user rows := by
  rw [insert_rows]
  exact Rows.filter_key_upsert_of_ne (f := id) Wallet.userId (fun _ => rfl) rfl h

theorem insert_of_not_new (h : (insert new rows).2 ≠ .flag true) : (insert new rows).1 = rows := by
  unfold insert at h ⊢
  split at h
  · next known => rw [if_pos known]
  · exact absurd rfl h

theorem ofUser_acknowledge (user owner : String) (rows : List Wallet) (now : Int) :
    ofUser user (acknowledge owner now rows).1 =
      if owner = user then (ofUser user rows).map (acknowledged now) else ofUser user rows := by
  split
  · next hid =>
    subst hid
    exact Rows.filter_key_change (f := acknowledged now) Wallet.userId (fun _ => rfl) owner
  · next hid =>
    exact Rows.filter_key_change_of_ne (f := acknowledged now) Wallet.userId (fun _ => rfl) hid

end rows

/-! ## One more event -/

variable {settings : Settings} {user : String} {h : List Event} {e : Event} {w : Wallet}
  {found : Option Wallet}

/-- The row with an acknowledgement that the event may bring. -/
def noted (user : String) (e : Event) (w : Wallet) : Wallet :=
  { w with acknowledgedAt := w.acknowledgedAt.or (acknowledgement? user e) }

theorem followsHistory_created (c : Creation) (uncreated : earliest (creation? user) h = none) :
    FollowsHistory settings user (h ++ [e]) c (created settings user c) where
  userId := rfl
  accountId := rfl
  network := networkOf_eq settings c.network
  seedPhraseHash := rfl
  encryptedPrivateKeyRef := rfl
  createdAt := rfl
  acknowledgedAt := by
    rw [afterEarliest_concat, uncreated]
    rfl

theorem FollowsHistory.concat {first : Creation} (hf : FollowsHistory settings user h first w)
    (hfirst : earliest (creation? user) h = some first) :
    FollowsHistory settings user (h ++ [e]) first (noted user e w) where
  userId := hf.userId
  accountId := hf.accountId
  network := hf.network
  seedPhraseHash := hf.seedPhraseHash
  encryptedPrivateKeyRef := hf.encryptedPrivateKeyRef
  createdAt := hf.createdAt
  acknowledgedAt := by
    rw [afterEarliest_concat, hfirst, Option.isSome_some, if_pos rfl, earliest_concat,
      ← hf.acknowledgedAt]
    rfl

/-- A wallet that is there is acknowledged by the event or left; one that is not there is created
by it or is still not there. -/
theorem Follows.concat (follows : Follows settings user h found) :
    Follows settings user (h ++ [e])
      ((found.map (noted user e)).or ((creation? user e).map (created settings user))) := by
  unfold Follows at follows ⊢
  rw [earliest_concat]
  cases hfirst : earliest (creation? user) h with
  | none =>
    rw [hfirst] at follows
    subst follows
    cases hc : creation? user e with
    | none => rfl
    | some c => exact ⟨created settings user c, rfl, followsHistory_created c hfirst⟩
  | some first =>
    rw [hfirst] at follows
    obtain ⟨w, rfl, hf⟩ := follows
    exact ⟨noted user e w, rfl, hf.concat hfirst⟩

theorem Follows.isEmpty_toList (follows : Follows settings user h found) :
    found.toList.isEmpty = (earliest (creation? user) h).isNone := by
  unfold Follows at follows
  cases hfirst : earliest (creation? user) h with
  | none =>
    rw [hfirst] at follows
    rw [follows]
    rfl
  | some first =>
    rw [hfirst] at follows
    obtain ⟨w, rfl, -⟩ := follows
    rfl

/-! ## Rows that follow -/

/-- The rows of a user are what follows from the history: none, or one. -/
def Tracks (settings : Settings) (user : String) (h : List Event) (rows : List Wallet) : Prop :=
  ∃ found : Option Wallet, ofUser user rows = found.toList ∧ Follows settings user h found

variable {rows rows' : List Wallet}

theorem noted_eq_self (hack : acknowledgement? user e = none) (w : Wallet) :
    noted user e w = w := by
  unfold noted
  rw [hack, Option.or_none]

/-- An event that does not concern the wallet. -/
theorem Tracks.silent (tracks : Tracks settings user h rows) (hcreate : creation? user e = none)
    (hack : acknowledgement? user e = none) (same : ofUser user rows' = ofUser user rows) :
    Tracks settings user (h ++ [e]) rows' := by
  obtain ⟨found, hrows, follows⟩ := tracks
  refine ⟨found, same.trans hrows, ?_⟩
  have next := follows.concat (e := e)
  have left : found.map (noted user e) = found := by
    rw [funext (noted_eq_self hack), Option.map_id_fun']
    rfl
  rw [hcreate, left] at next
  exact Option.or_none (o := found) ▸ next

theorem Tracks.create {owner account seed key : String} {network : Option String} {a : Answer}
    (tracks : Tracks settings user h rows)
    (hdeed : e.deed = .call (.wallets (.create owner account seed key network)) (.ok a)) :
    Tracks settings user (h ++ [e])
      (insert (created settings owner ⟨account, seed, key, network, e.clock⟩) rows).1 := by
  have hack : acknowledgement? user e = none := by simp [acknowledgement?, hdeed]
  by_cases hid : owner = user
  · subst hid
    have hcreate : creation? owner e = some ⟨account, seed, key, network, e.clock⟩ := by
      simp [creation?, hdeed]
    have hrows :=
      ofUser_insert (created settings owner ⟨account, seed, key, network, e.clock⟩) rows
    obtain ⟨found, hfound, follows⟩ := tracks
    have next := follows.concat (e := e)
    rw [hcreate, funext (noted_eq_self hack), Option.map_id'] at next
    cases found with
    | none => exact ⟨some _, hrows.trans (if_pos hfound), next⟩
    | some w =>
      have known : ofUser owner rows ≠ [] := by simp [hfound]
      exact ⟨some w, hrows.trans ((if_neg known).trans hfound), next⟩
  · exact tracks.silent (by simp [creation?, hdeed, hid]) hack (ofUser_insert_of_ne hid)

theorem Tracks.acknowledge {owner : String} {a : Answer} (tracks : Tracks settings user h rows)
    (hdeed : e.deed = .call (.wallets (.acknowledge owner)) (.ok a)) :
    Tracks settings user (h ++ [e]) (Wallets.acknowledge owner e.clock rows).1 := by
  have hcreate : creation? user e = none := by simp [creation?, hdeed]
  have hrows := ofUser_acknowledge user owner rows e.clock
  by_cases hid : owner = user
  · subst hid
    have hack : noted owner e = acknowledged e.clock := by
      funext w
      simp [noted, acknowledged, acknowledgement?, hdeed]
    obtain ⟨found, hfound, follows⟩ := tracks
    have next := follows.concat (e := e)
    rw [hcreate, hack, Option.map_none, Option.or_none] at next
    rw [if_pos rfl, hfound] at hrows
    exact ⟨found.map (acknowledged e.clock), by cases found <;> exact hrows, next⟩
  · rw [if_neg hid] at hrows
    exact tracks.silent hcreate (by simp [acknowledgement?, hdeed, hid]) hrows

/-! ## Courses -/

variable {t u : Tables}

theorem wallets_of_effect {ctx : Context} {c : Call} {a : Answer}
    (h : c.effect ctx t = .ok (u, a)) (other : ∀ r, c ≠ .wallets r) : u.wallets = t.wallets := by
  cases c with
  | wallets r => exact absurd rfl (other r)
  | purgeExpired =>
    obtain ⟨-, rfl, -⟩ := Plan.effect_update_eq_ok_iff.mp h
    rfl
  | _ => exact Plan.keep_of_effectOf_on h (fun _ => rfl) Tables.wallets fun _ _ => rfl

theorem Tracks.step (tracks : Tracks settings user h t.wallets)
    (moves : e.Moves settings (some t) (some u)) : Tracks settings user (h ++ [e]) u.wallets := by
  rcases Event.asked_or_kept_of_moves moves wallets_of_effect with
    ⟨r, a, hdeed, heffect⟩ | ⟨same, other⟩
  · obtain ⟨rows, hr, rfl⟩ := Plan.exists_of_effectOf_on heffect fun _ => rfl
    cases r with
    | create owner account seed key network =>
      obtain ⟨-, rfl, -⟩ := Plan.effect_update_eq_ok_iff.mp hr
      exact tracks.create hdeed
    | get owner =>
      cases hr
      exact tracks.silent (by simp [creation?, hdeed]) (by simp [acknowledgement?, hdeed]) rfl
    | acknowledge owner =>
      obtain ⟨-, rfl, -⟩ := Plan.effect_update_eq_ok_iff.mp hr
      exact tracks.acknowledge hdeed
  · refine tracks.silent ?_ ?_ (by rw [same])
    · unfold creation?
      split
      · next hdeed => exact absurd hdeed (other _ _)
      · rfl
    · unfold acknowledgement?
      split
      · next hdeed => exact absurd hdeed (other _ _)
      · rfl

/-- While the schema is kept the rows of a user follow the history. -/
theorem tracks_of_course (user : String) {tables : Option Tables}
    (course : Course settings (some .empty) h tables)
    (kept : ∀ e ∈ h, e.deed ≠ .dropSchema) :
    ∃ t, tables = some t ∧ Tracks settings user h t.wallets :=
  course.tracked (P := fun h t => Tracks settings user h t.wallets) ⟨none, rfl, rfl⟩
    (fun _ _ _ _ tracks moves => tracks.step moves) kept

/-! ## Calls -/

theorem effect_get (ctx : Context) (user : String) (t : Tables) :
    (Call.wallets (.get user)).effect ctx t = .ok (t, answer user t.wallets) :=
  rfl

theorem effect_create (ctx : Context) (user account seed key : String) (network : Option String)
    (t : Tables) :
    (Call.wallets (.create user account seed key network)).effect ctx t =
      if fitsWord ctx.clock then
        let (rows, a) :=
          insert (created ctx.settings user ⟨account, seed, key, network, ctx.clock⟩) t.wallets
        .ok ({ t with wallets := rows }, a)
      else .error .integerOutOfRange :=
  Call.effect_of_update ctx (.wallets (.create user account seed key network)) rfl
    (fun _ => rfl) t

/-- A look-up is answered with what follows from the history. -/
theorem Tracks.answer (tracks : Tracks settings user h rows) :
    ∃ found : Option Wallet, ofUser user rows = found.toList ∧
      Wallets.answer user rows = .record (found.map Wallet.record) ∧
      Follows settings user h found := by
  obtain ⟨found, hrows, follows⟩ := tracks
  refine ⟨found, hrows, ?_, follows⟩
  rw [Wallets.answer, find?_eq_head?, hrows]
  cases found <;> rfl

theorem Tracks.insert_answer (new : Wallet) (tracks : Tracks settings new.userId h rows) :
    (insert new rows).2 = .flag (earliest (creation? new.userId) h).isNone := by
  obtain ⟨found, hrows, follows⟩ := tracks
  rw [Wallets.insert_answer, hrows, follows.isEmpty_toList]

/-- A creation changes nothing unless it is answered with true. -/
theorem tables_of_create {p : Portal} {conn : Connection} {user account seed key : String}
    {network : Option String}
    (h : (p.attempt conn (.wallets (.create user account seed key network))).2 ≠
      .ok (.flag true)) :
    (p.attempt conn (.wallets (.create user account seed key network))).1 = p.tables := by
  cases there : p.tables with
  | none => exact (Portal.attempt_none there conn _).1
  | some t =>
    have heffect := effect_create p.context user account seed key network t
    split at heffect
    · rw [Portal.attempt_eq_of_effect_ok there conn heffect] at h ⊢
      have same := insert_of_not_new fun new => h (congrArg Except.ok new)
      exact congrArg (fun rows => some { t with wallets := rows }) same
    · rw [Portal.attempt_eq_of_effect_error there conn heffect]

/-! ## Runs -/

/-- What the history of a run makes of a user's wallet. -/
structure Chronicle (p : Portal) (steps : List Portal.Step) (user : String) : Prop where
  /-- There is the one row that follows from the history, or none, and a look-up finds it. -/
  stands : ∃ t found, (p.run steps).1.tables = some t ∧ ofUser user t.wallets = found.toList ∧
    ((p.run steps).1.call (.wallets (.get user))).2.outcome =
      .ok (.record (found.map Wallet.record)) ∧
    Follows p.settings user (p.history steps) found
  /-- So did a look-up within the run, by what had happened before it. -/
  found : ∀ passed now out rest,
    p.history steps = passed ++ ⟨now, .call (.wallets (.get user)) out⟩ :: rest →
    ∃ found : Option Wallet, out = .ok (.record (found.map Wallet.record)) ∧
      Follows p.settings user passed found
  /-- A creation is answered by whether it is the first one to be answered. -/
  answered : ∀ passed now account seed key network out rest,
    p.history steps =
      passed ++ ⟨now, .call (.wallets (.create user account seed key network)) out⟩ :: rest →
    out = if fitsWord now then .ok (.flag (earliest (creation? user) passed).isNone)
      else .error .integerOutOfRange
  /-- A creation that is answered with false, or fails, changes no table. -/
  kept : ∀ (s : Portal) conn account seed key network,
    (s.attempt conn (.wallets (.create user account seed key network))).2 ≠ .ok (.flag true) →
    (s.attempt conn (.wallets (.create user account seed key network))).1 = s.tables

/-- The wallet of a user for whom a creation was answered. -/
theorem Chronicle.row {p : Portal} {steps : List Portal.Step} {user : String} {first : Creation}
    (chronicle : Chronicle p steps user)
    (hfirst : earliest (creation? user) (p.history steps) = some first) :
    ∃ t w, (p.run steps).1.tables = some t ∧ ofUser user t.wallets = [w] ∧
      ((p.run steps).1.call (.wallets (.get user))).2.outcome = .ok (.record (some w.record)) ∧
      FollowsHistory p.settings user (p.history steps) first w := by
  obtain ⟨t, found, there, hrows, answered, follows⟩ := chronicle.stands
  rw [Follows, hfirst] at follows
  obtain ⟨w, rfl, hw⟩ := follows
  exact ⟨t, w, there, hrows, answered, hw⟩

theorem chronicle_of_run (settings : Settings) (clock : Int) (steps : List Portal.Step)
    (kept : .dropSchema ∉ steps) (user : String) :
    Chronicle (.fresh settings clock) steps user := by
  let p := Portal.fresh settings clock
  have course : Course settings (some .empty) (p.history steps) (p.run steps).1.tables :=
    p.run_course steps
  have keeps := p.kept_of_not_mem kept
  have passing : ∀ {passed e rest}, p.history steps = passed ++ e :: rest →
      ∃ t after, Tracks settings user passed t.wallets ∧ e.Moves settings (some t) after := by
    intro passed e rest heq
    obtain ⟨before, after, first, keeps, moves⟩ := course.kept_before keeps heq
    obtain ⟨t, rfl, tracks⟩ := tracks_of_course user first keeps
    exact ⟨t, after, tracks, moves⟩
  refine { stands := ?_, found := ?_, answered := ?_, kept := ?_ }
  · obtain ⟨t, there, tracks⟩ := tracks_of_course user course keeps
    obtain ⟨found, hrows, answered, follows⟩ := tracks.answer
    refine ⟨t, found, there, hrows, ?_, follows⟩
    rw [Portal.outcome_of_effect_ok there (effect_get _ user t), answered]
  · intro passed now out rest heq
    obtain ⟨t, after, tracks, moves⟩ := passing heq
    obtain ⟨found, -, answered, follows⟩ := tracks.answer
    refine ⟨found, ?_, follows⟩
    rw [(Event.eq_of_moves moves (effect_get _ user t)).2, answered]
  · intro passed now account seed key network out rest heq
    obtain ⟨t, after, tracks, moves⟩ := passing heq
    rw [Event.outcome_of_moves moves, effect_create]
    split
    · exact congrArg Except.ok
        (Tracks.insert_answer (created settings user ⟨account, seed, key, network, now⟩) tracks)
    · rfl
  · exact fun s conn account seed key network h => tables_of_create h

end AccountPortal.Wallets

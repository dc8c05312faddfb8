import AccountPortal.Proofs.Failure.Atomic
import AccountPortal.Proofs.Passkey.Change
import AccountPortal.Proofs.Record.Shown
import AccountPortal.Schema.Layout

/-!
# Stored rows are readable

After every run the columns that name a member of a set hold one of its words, and transports are
held as nothing or as some words in the order of declaration. So the record of every row is read
from the columns that statements hand back of it, and no call fails by reading what it has already
committed:

    (c.work q.context prepared q.tables).2 ≠ .error (.reading f)          (every_row_is_readable)
-/

namespace AccountPortal

/-! ## Columns -/

/-- The column holds the word of a member. -/
def HoldsWord (α : Type) [Choice α] (name : String) (row : Fields Value) : Prop :=
  ∃ w ∈ choiceWords α, row.get? name = some (.text w)

/-- Nothing is held, or words of transports, at least one and each after the one before it in the
order of declaration. -/
def HoldsTransports (row : Fields Value) : Prop :=
  row.get? "transports_json" = some .null ∨
    ∃ words : List String, row.get? "transports_json" = some (.list (words.map .text)) ∧
      words ≠ [] ∧ (∀ w ∈ words, w ∈ choiceWords Transport) ∧
      words.Pairwise fun v w =>
        (choiceWords Transport).idxOf v < (choiceWords Transport).idxOf w

theorem mem_sortedColumns {α : Type} [Row α] {rows : List α} {row : Fields Value} :
    row ∈ Tables.sortedColumns rows ↔ ∃ r ∈ rows, Row.columns r = row := by
  unfold Tables.sortedColumns
  simp only [List.mem_map, List.mem_mergeSort]

theorem text_mem_choiceWords {α : Type} [Choice α] [LawfulChoice α] (a : α) :
    Choice.text a ∈ choiceWords α :=
  List.mem_map_of_mem (List.mem_of_find?_eq_some (LawfulChoice.ofValue?_value a))

/-- A column that is written from a member holds its word. -/
theorem holdsWord_sortedColumns {α β : Type} [Row α] [Choice β] [LawfulChoice β] {rows : List α}
    {name : String} (member : α → β)
    (h : ∀ r, Fields.get? (Row.columns r) name = some (Choice.value (member r))) :
    ∀ row ∈ Tables.sortedColumns rows, HoldsWord β name row := by
  intro row hrow
  obtain ⟨r, -, rfl⟩ := mem_sortedColumns.mp hrow
  exact ⟨_, text_mem_choiceWords (member r), h r⟩

/-! ## Transports -/

/-- No transports, or some in the order of declaration. -/
def PasskeyCredential.InOrder (c : PasskeyCredential) : Prop :=
  ∀ ts, c.transports = some ts → ts ≠ [] ∧ ts.Sublist Choice.all

theorem PasskeyCredential.InOrder.stored {c : PasskeyCredential} (h : c.InOrder) : c.Stored :=
  fun empty => (h [] empty).1 rfl

theorem PasskeyCredential.InOrder.holdsTransports {c : PasskeyCredential} (h : c.InOrder) :
    HoldsTransports (Row.columns c) := by
  have held : Fields.get? (Row.columns c) "transports_json" =
      some (transportsValue c.transports) := Fields.get?_put_self _ _ _
  unfold HoldsTransports
  rw [held]
  cases given : c.transports with
  | none => exact Or.inl rfl
  | some ts =>
    obtain ⟨nonempty, ordered⟩ := h ts given
    have words : (ts.map Choice.text).Sublist (choiceWords Transport) := ordered.map Choice.text
    have increasing : (choiceWords Transport).Pairwise fun v w =>
        (choiceWords Transport).idxOf v < (choiceWords Transport).idxOf w := by decide
    refine Or.inr ⟨ts.map Choice.text, ?_, by simpa using nonempty, fun w hw => words.subset hw,
      increasing.sublist words⟩
    rw [List.map_map]
    rfl

theorem sublist_of_canonicalTransports {v : Value} {ts : List Transport}
    (h : canonicalTransports v = .ok (some ts)) : ts.Sublist Choice.all := by
  have of_items : ∀ items, canonicalItems items = .ok (some ts) → ts.Sublist Choice.all := by
    intro items hitems
    obtain ⟨given, -, heq⟩ := Except.map_eq_ok_iff.mp hitems
    cases heq
    exact List.filter_sublist
  unfold canonicalTransports at h
  split at h
  · cases h
  · exact of_items _ h
  · exact of_items _ h
  · cases h

namespace PasskeyCredentials

theorem inOrder_fresh {r : Registration} {given : Value} {ts : Option (List Transport)}
    (canonical : canonicalTransports given = .ok ts) (now : Int) : (fresh r ts now).InOrder := by
  intro kept hkept
  obtain ⟨rfl, nonempty⟩ := Option.filter_eq_some_iff.mp hkept
  exact ⟨by simpa using nonempty, sublist_of_canonicalTransports canonical⟩

theorem inOrder_of_answered {now : Int} {rows rows' : List PasskeyCredential} {r : Request}
    {a : Answer} (made : Answered now rows r rows' a) (h : ∀ c ∈ rows, c.InOrder) :
    ∀ c ∈ rows', c.InOrder := by
  cases made with
  | @register r given ts canonical =>
    have new : (fresh r ts now).InOrder := inOrder_fresh canonical now
    exact Rows.forall_upsert (fun _ _ => new) new h
  | setCounter id counter => exact Rows.forall_change (fun _ hc => hc) h
  | get id => exact h
  | listForUser user => exact h
  | remove id user => exact fun c hc => h c (Rows.mem_remove.mp hc).1

end PasskeyCredentials

def Tables.InOrder (t : Tables) : Prop := ∀ c ∈ t.passkeyCredentials, c.InOrder

theorem inOrder_of_moves {settings : Settings} (e : Event) (t u : Tables)
    (moves : e.Moves settings (some t) (some u)) (h : t.InOrder) : u.InOrder := by
  unfold Tables.InOrder
  rcases PasskeyCredentials.credentials_of_moves moves with ⟨r, a, -, made⟩ | ⟨same, -⟩
  · exact PasskeyCredentials.inOrder_of_answered made h
  · rw [same]
    exact h

theorem inOrder_of_course {settings : Settings} {h : List Event} {tables : Option Tables}
    (course : Course settings (some .empty) h tables) (t : Tables) (there : tables = some t) :
    t.InOrder :=
  course.invariant (P := Tables.InOrder) (fun c hc => by cases hc) inOrder_of_moves t there

/-! ## Records of rows -/

/-- The kind of the records that statements hand back of a table, and the columns they are read
from. -/
def TableName.handsBack : TableName → Option (RecordKind × List String)
  | .users => some (.user, Layout.users.columns.map Column.name)
  | .sessions => some (.session, ["session_id", "user_id", "expires_at_ms"])
  | .oauthStates => some (.oauthState, ["provider", "redirect_uri"])
  | .enrollments => some (.enrollment, Layout.enrollments.columns.map Column.name)
  | .wallets => some (.wallet, Layout.wallets.columns.map Column.name)
  | .passkeyCredentials =>
    some (.passkeyCredential, Layout.passkeyCredentials.columns.map Column.name)
  | .passkeyChallenges => some (.passkeyChallenge, ["user_id", "email", "challenge", "flow_type"])
  | .emailVerifications | .oauthLinks => none

def selected (names : List String) (row : Fields Value) : Fields Value :=
  row.filter fun field => names.contains field.1

/-- The record is read from what is handed back of a row. -/
def Tables.Gives (t : Tables) (r : Record) : Prop :=
  ∃ n kind names, TableName.handsBack n = some (kind, names) ∧
    ∃ row ∈ t.contents n, kind.read (selected names row) = .ok r

/-- The rows of a table and their records, each read from what is handed back of the row. -/
def Reads (kind : RecordKind) (names : List String) (contents : List (Fields Value))
    (records : List Record) : Prop :=
  (∀ row ∈ contents, ∃ r ∈ records, kind.read (selected names row) = .ok r) ∧
    ∀ r ∈ records, ∃ row ∈ contents, kind.read (selected names row) = .ok r

/-- What is handed back of a row are the columns of its record. -/
theorem reads_of_columns {α : Type} [Row α] {kind : RecordKind} {names : List String}
    {f : α → Record} {rows : List α} (hkind : ∀ r, (f r).kind = kind)
    (hcolumns : ∀ r, selected names (Row.columns r) = (f r).columns)
    (stored : ∀ r ∈ rows, (f r).Stored) :
    Reads kind names (Tables.sortedColumns rows) (rows.map f) := by
  have read : ∀ r ∈ rows, kind.read (selected names (Row.columns r)) = .ok (f r) := by
    intro r hr
    rw [hcolumns r, ← hkind r]
    exact read_columns (stored r hr)
  constructor
  · intro row hrow
    obtain ⟨r, hr, rfl⟩ := mem_sortedColumns.mp hrow
    exact ⟨f r, List.mem_map_of_mem hr, read r hr⟩
  · intro r hr
    obtain ⟨x, hx, rfl⟩ := List.mem_map.mp hr
    exact ⟨Row.columns x, mem_sortedColumns.mpr ⟨x, hx, rfl⟩, read x hx⟩

namespace Tables

variable {t : Tables} {n : TableName} {kind : RecordKind} {names : List String}

theorem reads_of_inOrder (ordered : t.InOrder) (h : n.handsBack = some (kind, names)) :
    Reads kind names (t.contents n) (t.records n) := by
  cases n with
  | passkeyCredentials =>
    cases h
    exact reads_of_columns (fun _ => rfl) (fun _ => rfl) fun c hc => (ordered c hc).stored
  | emailVerifications => cases h
  | oauthLinks => cases h
  | _ =>
    cases h
    exact reads_of_columns (fun _ => rfl) (fun _ => rfl) fun _ _ => trivial

theorem gives_of_mem_records (ordered : t.InOrder) {r : Record} (hr : r ∈ t.records n) :
    t.Gives r := by
  cases h : n.handsBack with
  | none =>
    cases n with
    | emailVerifications => cases hr
    | oauthLinks => cases hr
    | _ => cases h
  | some back =>
    obtain ⟨row, hrow, read⟩ := (reads_of_inOrder ordered h).2 r hr
    exact ⟨n, back.1, back.2, h, row, hrow, read⟩

end Tables

/-! ## Calls -/

namespace Portal

variable {p : Portal} {c : Call} {conn : Connection} {t : Tables}

theorem attempt_of_attempted_error {f : Failure} (h : (p.attempted conn c).2 = .error f) :
    ∃ g, f = .fault g ∧ (p.attempt conn c).2 = .error g := by
  unfold attempted at h
  cases hout : (p.attempt conn c).2 with
  | ok a =>
    rw [hout] at h
    cases h
  | error g =>
    rw [hout] at h
    cases h
    exact ⟨g, rfl, rfl⟩

/-- What an answered call hands back is given by the rows before it or after it. -/
theorem gives_of_attempted {a : Answer} (there : p.tables = some t) (ordered : t.InOrder)
    (h : (p.attempted conn c).2 = .ok a) :
    ∃ u, (p.attempted conn c).1 = some u ∧ ∀ r ∈ a.shown, t.Gives r ∨ u.Gives r := by
  unfold attempted at h ⊢
  cases he : c.effect p.context t with
  | error f =>
    rw [attempt_eq_of_effect_error there conn he] at h
    cases h
  | ok result =>
    obtain ⟨u, b⟩ := result
    have made := attempt_eq_of_effect_ok there conn he
    have moves := p.attempt_moves conn c
    rw [made, there] at moves
    rw [made] at h ⊢
    cases h
    refine ⟨u, rfl, ?_⟩
    intro r hr
    obtain ⟨n, before | after⟩ := c.shows p.context t u a he r hr
    · exact Or.inl (Tables.gives_of_mem_records ordered before)
    · exact Or.inr (Tables.gives_of_mem_records (inOrder_of_moves _ t u moves ordered) after)

end Portal

/-! ## After every run -/

/-- After every run the columns hold what they should, and every row can be read. Every call then,
carried out statement by statement on any connection, never fails by reading, so one that fails has
changed nothing; and the records it hands back are read from rows that were there before or are
there after it. -/
theorem every_row_is_readable (settings : Settings) (clock : Int) (steps : List Portal.Step) :
    let q := ((Portal.fresh settings clock).run steps).1
    (∀ t, q.tables = some t →
      (∀ row ∈ t.contents .enrollments, HoldsWord NodeKind "node_kind" row) ∧
      (∀ row ∈ t.contents .oauthLinks, HoldsWord Provider "provider" row) ∧
      (∀ row ∈ t.contents .oauthStates, HoldsWord Provider "provider" row) ∧
      (∀ row ∈ t.contents .passkeyChallenges, HoldsWord PasskeyFlow "flow_type" row) ∧
      (∀ row ∈ t.contents .passkeyCredentials, HoldsTransports row) ∧
      ∀ (n : TableName) kind names, n.handsBack = some (kind, names) →
        ∀ row ∈ t.contents n, ∃ r, kind.read (selected names row) = .ok r) ∧
    ∀ (c : Call) (conn : Connection) (prepared : Nat → Bool), prepared 0 = conn.knows c →
      let w := c.work q.context prepared q.tables
      (∀ f, w.2 ≠ .error (.reading f)) ∧ (∀ f, w.2 = .error f → w.1 = q.tables) ∧
        ∀ t a, q.tables = some t → w.2 = .ok a →
          ∃ u, w.1 = some u ∧ ∀ r ∈ a.shown, t.Gives r ∨ u.Gives r := by
  intro q
  have course := (Portal.fresh settings clock).run_course steps
  have ordered : ∀ t, q.tables = some t → t.InOrder := inOrder_of_course course
  have stored : ∀ t, q.tables = some t → t.Stored :=
    fun t ht c hc => (ordered t ht c hc).stored
  constructor
  · intro t ht
    refine ⟨?_, ?_, ?_, ?_, ?_, ?_⟩
    · exact holdsWord_sortedColumns Enrollment.nodeKind fun _ => rfl
    · exact holdsWord_sortedColumns IdentityLink.provider fun _ => rfl
    · exact holdsWord_sortedColumns OAuthState.provider fun _ => rfl
    · exact holdsWord_sortedColumns PasskeyChallenge.flow fun _ => rfl
    · intro row hrow
      obtain ⟨c, hc, rfl⟩ := mem_sortedColumns.mp hrow
      exact (ordered t ht c hc).holdsTransports
    · intro n kind names h row hrow
      obtain ⟨r, -, read⟩ := (Tables.reads_of_inOrder (ordered t ht) h).1 row hrow
      exact ⟨r, read⟩
  · intro c conn prepared known w
    have worked : w = q.attempted conn c :=
      Portal.work_eq_attempt (keysDiffer_of_course course) stored known
    rw [worked]
    refine ⟨?_, ?_, ?_⟩
    · intro f hf
      obtain ⟨g, heq, -⟩ := Portal.attempt_of_attempted_error hf
      cases heq
    · intro f hf
      obtain ⟨g, -, failed⟩ := Portal.attempt_of_attempted_error hf
      exact Portal.tables_of_error failed
    · intro t a ht ha
      exact Portal.gives_of_attempted ht (ordered t ht) ha

/-- A credential with transports in disorder is registered, and a challenge is created and consumed:
it is handed back once its row is gone. -/
theorem challenge_read_after_its_row_is_gone :
    let register : Call := .passkeyCredentials (.register ⟨"c", "u", "w", "k", 0, "multi", false⟩
      (.list [.text "nfc", .text "usb", .text "nfc"]))
    let create : Call :=
      .passkeyChallenges (.create "x" "h" (.text "registration") (some 10) none none)
    let consume : Call := .passkeyChallenges (.consume "x")
    let r : Record := .passkeyChallenge none none "h" .registration
    let q := ((Portal.fresh .standard 0).run [.call register, .call create]).1
    let w := consume.work q.context (fun _ => false) q.tables
    ∃ t, q.tables = some t ∧ (∀ row ∈ t.contents .passkeyCredentials, HoldsTransports row) ∧
      (∃ row, TableName.handsBack .passkeyChallenges = some row ∧
        ∀ stored ∈ t.contents .passkeyChallenges,
          ∃ r, row.1.read (selected row.2 stored) = .ok r) ∧
      w.2 = .ok (.record (some r)) ∧ (∀ f, w.2 ≠ .error (.reading f)) ∧
      ∃ u, w.1 = some u ∧ u.passkeyChallenges = [] ∧ (t.Gives r ∨ u.Gives r) := by
  intro register create consume r q w
  obtain ⟨holds, works⟩ := every_row_is_readable .standard 0 [.call register, .call create]
  obtain ⟨t, ht⟩ : ∃ t, q.tables = some t := ⟨_, rfl⟩
  obtain ⟨-, -, -, -, transports, read⟩ := holds t ht
  obtain ⟨never, -, gives⟩ := works consume .fresh (fun _ => false) rfl
  have answered : w.2 = .ok (.record (some r)) := rfl
  obtain ⟨u, hu, given⟩ := gives t (.record (some r)) ht answered
  have gone : w.1.map (·.passkeyChallenges) = some [] := rfl
  rw [hu] at gone
  exact ⟨t, ht, transports, ⟨_, rfl, read .passkeyChallenges _ _ rfl⟩, answered, never, u, hu,
    Option.some.inj gone, given r (List.mem_singleton.mpr rfl)⟩

end AccountPortal

import AccountPortal.Portal.Call
import AccountPortal.Proofs.Record.RoundTrip
import AccountPortal.Proofs.Rows
import AccountPortal.Schema.Layout
import Mathlib.Data.List.Forall2

/-!
# Keys of tables

The layout declares for each table a primary key and the columns that are unique beside it. Rows
whose keys differ in this sense are told apart by the columns that the layout names, and by the
texts of the rows that these columns hold:

    (spec α).KeysDiffer (sortedColumns rows) ↔ KeysDiffer rows           (keysDiffer_sortedColumns)
-/

namespace AccountPortal

/-- No two rows agree in all columns of a key. -/
def TableSpec.KeysDiffer (s : TableSpec) (rows : List (Fields Value)) : Prop :=
  ∀ names ∈ s.key :: s.unique, (rows.map fun r => names.map r.get?).Nodup

/-- The columns of a key, each with the text that a row holds there. -/
def ReadsKey {α : Type} [Row α] (names : List String) (key : α → List String) : Prop :=
  ∀ r, names.map (Row.columns r).get? = (key r).map fun s => some (.text s)

theorem nodup_columns_iff {α : Type} [Row α] {rows : List α} {names : List String}
    {key : α → List String} (h : ReadsKey names key) :
    ((rows.map Row.columns).map fun r => names.map r.get?).Nodup ↔ (rows.map key).Nodup := by
  have texts : Function.Injective fun l : List String => l.map fun s => some (Value.text s) := by
    apply List.map_injective_iff.mpr
    intro a b hab
    cases hab
    rfl
  have same : ((rows.map Row.columns).map fun r => names.map r.get?) =
      (rows.map key).map fun l => l.map fun s => some (Value.text s) := by
    rw [List.map_map, List.map_map]
    exact List.map_congr_left fun r _ => h r
  rw [same, List.nodup_map_iff texts]

/-- A kind of row with its table, and the keys that are unique beside the primary key. -/
class Keyed (α : Type) [Row α] where
  spec : TableSpec
  unique : List (α → List String)
  reads : List.Forall₂ ReadsKey (spec.key :: spec.unique) (Row.key :: unique)

section KeysDiffer

variable {α : Type} [Row α] [Keyed α]

/-- The keys of a row, the primary key in front. -/
def keysOf (α : Type) [Row α] [Keyed α] : List (α → List String) := Row.key :: Keyed.unique

/-- No two rows share a key. -/
def KeysDiffer (rows : List α) : Prop := ∀ key ∈ keysOf α, (rows.map key).Nodup

instance (rows : List α) : Decidable (KeysDiffer rows) :=
  inferInstanceAs (Decidable (∀ key ∈ keysOf α, (rows.map key).Nodup))

variable {rows : List α} {p : α → Bool} {f : α → α} {new : α}

theorem keysDiffer_nil : KeysDiffer ([] : List α) := fun _ _ => List.nodup_nil

theorem KeysDiffer.primary (h : KeysDiffer rows) : (rows.map Row.key).Nodup :=
  h Row.key List.mem_cons_self

/-- A column that is a key of its own holds every text once. -/
theorem KeysDiffer.column (h : KeysDiffer rows) {column : α → String}
    (declared : (fun r => [column r]) ∈ keysOf α) : (rows.map column).Nodup := by
  apply List.Nodup.of_map fun s => [s]
  rw [List.map_map]
  exact h _ declared

theorem KeysDiffer.remove (h : KeysDiffer rows) : KeysDiffer (Rows.remove p rows) :=
  fun key hkey => Rows.nodup_map_remove (h key hkey)

theorem KeysDiffer.change (h : KeysDiffer rows) (hf : ∀ key ∈ keysOf α, ∀ r, key (f r) = key r) :
    KeysDiffer (Rows.change p f rows) := by
  intro key hkey
  rw [Rows.map_change (hf key hkey)]
  exact h key hkey

theorem KeysDiffer.append_iff (h : KeysDiffer rows) :
    KeysDiffer (rows ++ [new]) ↔ ∀ r ∈ rows, ∀ key ∈ keysOf α, key r ≠ key new := by
  constructor
  · intro differ r hr key hkey
    have nodup := differ key hkey
    rw [List.map_append, List.nodup_append] at nodup
    exact nodup.2.2 _ (List.mem_map_of_mem hr) _ (by simp)
  · intro free key hkey
    exact Rows.nodup_map_append (h key hkey) fun r hr => free r hr key hkey

/-- The rows with one key are at most one. -/
theorem KeysDiffer.length_filter_le (h : KeysDiffer rows) (key : α → List String)
    (hkey : key ∈ keysOf α) (k : List String) (hp : ∀ r, p r = true → key r = k) :
    (rows.filter p).length ≤ 1 := by
  have alike : (rows.filter p).map key = List.replicate (rows.filter p).length k := by
    rw [List.eq_replicate_iff, List.length_map]
    refine ⟨rfl, ?_⟩
    intro x hx
    obtain ⟨r, hr, rfl⟩ := List.mem_map.mp hx
    exact hp r (List.mem_filter.mp hr).2
  have nodup : ((rows.filter p).map key).Nodup :=
    List.Nodup.sublist (List.filter_sublist.map key) (h key hkey)
  rw [alike, List.nodup_replicate] at nodup
  exact nodup

/-! ## Columns -/

theorem keysDiffer_columns :
    (Keyed.spec α).KeysDiffer (rows.map Row.columns) ↔ KeysDiffer rows := by
  unfold TableSpec.KeysDiffer KeysDiffer keysOf
  have reads := Keyed.reads (α := α)
  generalize (Keyed.spec α).key :: (Keyed.spec α).unique = declared at reads ⊢
  generalize (Row.key :: Keyed.unique : List (α → List String)) = keys at reads ⊢
  induction reads with
  | nil => simp
  | cons first _ ih =>
    rw [List.forall_mem_cons, List.forall_mem_cons]
    exact and_congr (nodup_columns_iff first) ih

/-- The order in which a table shows its rows does not matter. -/
theorem keysDiffer_sortedColumns :
    (Keyed.spec α).KeysDiffer (Tables.sortedColumns rows) ↔ KeysDiffer rows := by
  rw [← keysDiffer_columns]
  unfold Tables.sortedColumns TableSpec.KeysDiffer
  have shown := (List.mergeSort_perm rows fun a b =>
    decide ((Row.key a).map utf8 ≤ (Row.key b).map utf8)).map Row.columns
  have same := fun names : List String => (shown.map fun r => names.map r.get?).nodup_iff
  simp only [same]

end KeysDiffer

/-! ## The nine tables -/

instance : Keyed User where
  spec := Layout.users
  unique := [fun r => [r.email]]
  reads := .cons (fun _ => rfl) (.cons (fun _ => rfl) .nil)

instance : Keyed Session where
  spec := Layout.sessions
  unique := [fun r => [r.tokenHash]]
  reads := .cons (fun _ => rfl) (.cons (fun _ => rfl) .nil)

instance : Keyed EmailToken where
  spec := Layout.emailVerifications
  unique := [fun r => [r.tokenHash]]
  reads := .cons (fun _ => rfl) (.cons (fun _ => rfl) .nil)

instance : Keyed IdentityLink where
  spec := Layout.oauthLinks
  unique := []
  reads := .cons (fun _ => rfl) .nil

instance : Keyed OAuthState where
  spec := Layout.oauthStates
  unique := []
  reads := .cons (fun _ => rfl) .nil

instance : Keyed Enrollment where
  spec := Layout.enrollments
  unique := []
  reads := .cons (fun _ => rfl) .nil

instance : Keyed Wallet where
  spec := Layout.wallets
  unique := []
  reads := .cons (fun _ => rfl) .nil

instance : Keyed PasskeyCredential where
  spec := Layout.passkeyCredentials
  unique := []
  reads := .cons (fun _ => rfl) .nil

instance : Keyed PasskeyChallenge where
  spec := Layout.passkeyChallenges
  unique := []
  reads := .cons (fun _ => rfl) .nil

/-! ## All tables -/

structure Tables.KeysDiffer (t : Tables) : Prop where
  users : AccountPortal.KeysDiffer t.users
  sessions : AccountPortal.KeysDiffer t.sessions
  emailTokens : AccountPortal.KeysDiffer t.emailTokens
  identityLinks : AccountPortal.KeysDiffer t.identityLinks
  oauthStates : AccountPortal.KeysDiffer t.oauthStates
  enrollments : AccountPortal.KeysDiffer t.enrollments
  wallets : AccountPortal.KeysDiffer t.wallets
  passkeyCredentials : AccountPortal.KeysDiffer t.passkeyCredentials
  passkeyChallenges : AccountPortal.KeysDiffer t.passkeyChallenges

theorem Tables.keysDiffer_empty : Tables.empty.KeysDiffer := by
  constructor <;> exact keysDiffer_nil

/-- A kind of row with its place among the tables. -/
class Placed (α : Type) [Row α] [Keyed α] where
  rows : Tables → List α
  withRows : List α → Tables → Tables
  withRows_rows : ∀ t, withRows (rows t) t = t
  part : ∀ {t}, t.KeysDiffer → KeysDiffer (rows t)
  whole : ∀ {t rows}, t.KeysDiffer → KeysDiffer rows → (withRows rows t).KeysDiffer

instance : Placed User where
  rows t := t.users
  withRows rows t := { t with users := rows }
  withRows_rows _ := rfl
  part h := h.users
  whole h rows := { h with users := rows }

instance : Placed Session where
  rows t := t.sessions
  withRows rows t := { t with sessions := rows }
  withRows_rows _ := rfl
  part h := h.sessions
  whole h rows := { h with sessions := rows }

instance : Placed EmailToken where
  rows t := t.emailTokens
  withRows rows t := { t with emailTokens := rows }
  withRows_rows _ := rfl
  part h := h.emailTokens
  whole h rows := { h with emailTokens := rows }

instance : Placed IdentityLink where
  rows t := t.identityLinks
  withRows rows t := { t with identityLinks := rows }
  withRows_rows _ := rfl
  part h := h.identityLinks
  whole h rows := { h with identityLinks := rows }

instance : Placed OAuthState where
  rows t := t.oauthStates
  withRows rows t := { t with oauthStates := rows }
  withRows_rows _ := rfl
  part h := h.oauthStates
  whole h rows := { h with oauthStates := rows }

instance : Placed Enrollment where
  rows t := t.enrollments
  withRows rows t := { t with enrollments := rows }
  withRows_rows _ := rfl
  part h := h.enrollments
  whole h rows := { h with enrollments := rows }

instance : Placed Wallet where
  rows t := t.wallets
  withRows rows t := { t with wallets := rows }
  withRows_rows _ := rfl
  part h := h.wallets
  whole h rows := { h with wallets := rows }

instance : Placed PasskeyCredential where
  rows t := t.passkeyCredentials
  withRows rows t := { t with passkeyCredentials := rows }
  withRows_rows _ := rfl
  part h := h.passkeyCredentials
  whole h rows := { h with passkeyCredentials := rows }

instance : Placed PasskeyChallenge where
  rows t := t.passkeyChallenges
  withRows rows t := { t with passkeyChallenges := rows }
  withRows_rows _ := rfl
  part h := h.passkeyChallenges
  whole h rows := { h with passkeyChallenges := rows }

/-- A plan on the rows of one table, carried out among all tables. -/
def Plan.onTable {α : Type} [Row α] [Keyed α] [Placed α] : Plan (List α) → Plan Tables :=
  Plan.on Placed.rows Placed.withRows

/-- Every table of the layout shows rows whose keys differ. -/
theorem Tables.KeysDiffer.contents {t : Tables} (h : t.KeysDiffer) (n : TableName) :
    ∃ spec ∈ Layout.tables.map Layout.Declared.table,
      spec.name = Choice.text n ∧ spec.KeysDiffer (t.contents n) := by
  cases n with
  | users =>
    exact ⟨Layout.users, by simp [Layout.tables], rfl, keysDiffer_sortedColumns.mpr h.users⟩
  | sessions =>
    exact ⟨Layout.sessions, by simp [Layout.tables], rfl, keysDiffer_sortedColumns.mpr h.sessions⟩
  | emailVerifications =>
    exact ⟨Layout.emailVerifications, by simp [Layout.tables], rfl,
      keysDiffer_sortedColumns.mpr h.emailTokens⟩
  | oauthLinks =>
    exact ⟨Layout.oauthLinks, by simp [Layout.tables], rfl,
      keysDiffer_sortedColumns.mpr h.identityLinks⟩
  | oauthStates =>
    exact ⟨Layout.oauthStates, by simp [Layout.tables], rfl,
      keysDiffer_sortedColumns.mpr h.oauthStates⟩
  | enrollments =>
    exact ⟨Layout.enrollments, by simp [Layout.tables], rfl,
      keysDiffer_sortedColumns.mpr h.enrollments⟩
  | wallets =>
    exact ⟨Layout.wallets, by simp [Layout.tables], rfl, keysDiffer_sortedColumns.mpr h.wallets⟩
  | passkeyCredentials =>
    exact ⟨Layout.passkeyCredentials, by simp [Layout.tables], rfl,
      keysDiffer_sortedColumns.mpr h.passkeyCredentials⟩
  | passkeyChallenges =>
    exact ⟨Layout.passkeyChallenges, by simp [Layout.tables], rfl,
      keysDiffer_sortedColumns.mpr h.passkeyChallenges⟩

end AccountPortal

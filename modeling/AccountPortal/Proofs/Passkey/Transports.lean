import AccountPortal.Proofs.Listing
import AccountPortal.Proofs.Passkey.Chronicle
import AccountPortal.Proofs.Record.Readable

/-!
# Transports as a set

A list of transports is taken when each of its elements is the word of one, and then it is kept as
the set of its elements in the order of declaration; else the first element that is none is named:

    canonicalTransports (.list vs) = .ok kept ↔ ∃ ts, kept = some ts ∧ Canonical vs ts
                                                              (canonicalTransports_eq_ok_iff)
    canonicalTransports (.list vs) = .error f ↔
      ∃ v, FirstUnknown vs v ∧ f = .unknownChoice "passkey transport" v
                                                              (canonicalTransports_eq_error_iff)

A credential that is registered with them holds just these, or nothing where there are none, and is
found with them (transports_are_kept_as_a_set).
-/

namespace AccountPortal

/-! ## Words -/

section choice

variable {α : Type} [Choice α] [LawfulChoice α] {a : α} {v : Value}

theorem Choice.value_injective : Function.Injective (Choice.value : α → Value) := by
  intro a b h
  have found := LawfulChoice.ofValue?_value a
  rw [h, LawfulChoice.ofValue?_value] at found
  exact (Option.some.inj found).symm

/-- Nothing but its word is read as a member. -/
theorem Choice.ofValue?_eq_some_iff : Choice.ofValue? v = some a ↔ v = Choice.value a := by
  constructor
  · intro h
    cases v with
    | text s =>
      have found : (Choice.all : List α).find? (fun b => Choice.text b == s) = some a := h
      have word : Choice.text a = s := by simpa using List.find?_some found
      rw [Choice.value, word]
    | _ => cases h
  · rintro rfl
    exact LawfulChoice.ofValue?_value a

end choice

def NamesTransport (v : Value) : Prop := ∃ t : Transport, v = Choice.value t

/-- Transports are named up to this value, and it is none. -/
def FirstUnknown (vs : List Value) (v : Value) : Prop :=
  ¬ NamesTransport v ∧ ∃ (good : List Transport) (rest : List Value),
    vs = good.map Choice.value ++ v :: rest

theorem named_or_firstUnknown (vs : List Value) :
    (∃ given : List Transport, vs = given.map Choice.value) ∨ ∃ v, FirstUnknown vs v := by
  induction vs with
  | nil => exact .inl ⟨[], rfl⟩
  | cons v rest ih =>
    by_cases known : NamesTransport v
    · obtain ⟨t, rfl⟩ := known
      rcases ih with ⟨given, rfl⟩ | ⟨v, unknown, good, rest, rfl⟩
      · exact .inl ⟨t :: given, rfl⟩
      · exact .inr ⟨v, unknown, t :: good, rest, rfl⟩
    · exact .inr ⟨v, known, [], rest, rfl⟩

theorem exists_firstUnknown_iff {vs : List Value} :
    (∃ v, FirstUnknown vs v) ↔ ∃ v ∈ vs, ¬ NamesTransport v := by
  constructor
  · rintro ⟨v, unknown, good, rest, rfl⟩
    exact ⟨v, by simp, unknown⟩
  · rintro ⟨v, hv, unknown⟩
    rcases named_or_firstUnknown vs with ⟨given, rfl⟩ | first
    · obtain ⟨t, -, rfl⟩ := List.mem_map.mp hv
      exact absurd ⟨t, rfl⟩ unknown
    · exact first

theorem coerceTransports_append (good : List Transport) (rest : List Value) :
    coerceTransports (good.map Choice.value ++ rest) =
      (coerceTransports rest).map (good ++ ·) := by
  induction good with
  | nil => cases h : coerceTransports rest <;> simp [h, Except.map]
  | cons t good ih =>
    have known : Choice.coerce "passkey transport" (Choice.value t) = .ok t :=
      Choice.coerce_eq_ok_iff.mpr (LawfulChoice.ofValue?_value t)
    rw [List.map_cons, List.cons_append, coerceTransports, known, ih]
    cases coerceTransports rest <;> rfl

theorem coerceTransports_values (given : List Transport) :
    coerceTransports (given.map Choice.value) = .ok given := by
  have whole := coerceTransports_append given []
  rw [List.append_nil] at whole
  rw [whole, coerceTransports, Except.map, List.append_nil]

theorem coerceTransports_of_firstUnknown {vs : List Value} {v : Value} (h : FirstUnknown vs v) :
    coerceTransports vs = .error (.unknownChoice "passkey transport" v) := by
  obtain ⟨unknown, good, rest, rfl⟩ := h
  have refused : (Choice.coerce "passkey transport" v : Except Fault Transport) =
      .error (.unknownChoice "passkey transport" v) := by
    unfold Choice.coerce
    cases known : (Choice.ofValue? v : Option Transport) with
    | none => rfl
    | some t => exact absurd ⟨t, Choice.ofValue?_eq_some_iff.mp known⟩ unknown
  rw [coerceTransports_append, coerceTransports, refused]
  rfl

/-! ## Sets -/

theorem mem_inOrder {t : Transport} {ts : List Transport} : t ∈ inOrder ts ↔ t ∈ ts := by
  have declared : t ∈ (Choice.all : List Transport) := by cases t <;> decide
  rw [inOrder, List.mem_filter, List.contains_iff_mem]
  exact and_iff_right declared

theorem nodup_of_sublist_all {ts : List Transport} (h : ts.Sublist Choice.all) : ts.Nodup := by
  have distinct : (Choice.all : List Transport).Nodup := by decide
  exact distinct.sublist h

theorem inOrder_congr {ts us : List Transport} (h : ∀ t, t ∈ ts ↔ t ∈ us) :
    inOrder ts = inOrder us := by
  unfold inOrder
  apply List.filter_congr
  intro t _
  rw [Bool.eq_iff_iff, List.contains_iff_mem, List.contains_iff_mem]
  exact h t

theorem inOrder_eq_self {ts : List Transport} (h : ts.Sublist Choice.all) : inOrder ts = ts := by
  have whole : ts.filter ts.contains = ts :=
    List.filter_eq_self.mpr fun t ht => List.contains_iff_mem.mpr ht
  -- `ts` is a part of what is kept of it, and has as many elements
  have part : ts.Sublist (inOrder ts) := by
    have kept := h.filter ts.contains
    rwa [whole] at kept
  have ordered : (inOrder ts).Sublist Choice.all := List.filter_sublist
  have perm : ts.Perm (inOrder ts) := by
    rw [List.perm_ext_iff_of_nodup (nodup_of_sublist_all h) (nodup_of_sublist_all ordered)]
    exact fun t => mem_inOrder.symm
  exact (part.eq_of_length perm.length_eq).symm

/-- The elements of a list, each once and in the order of declaration. -/
structure Canonical (vs : List Value) (ts : List Transport) : Prop where
  ordered : ts.Sublist Choice.all
  once : ts.Nodup
  named : ∀ v, v ∈ ts.map Choice.value ↔ v ∈ vs

theorem canonical_values_iff {given ts : List Transport} :
    Canonical (given.map Choice.value) ts ↔ ts = inOrder given := by
  constructor
  · intro h
    rw [← inOrder_eq_self h.ordered]
    apply inOrder_congr
    intro t
    rw [← List.mem_map_of_injective Choice.value_injective, h.named,
      List.mem_map_of_injective Choice.value_injective]
  · rintro rfl
    have ordered : (inOrder given).Sublist Choice.all := List.filter_sublist
    refine ⟨ordered, nodup_of_sublist_all ordered, ?_⟩
    intro v
    simp only [List.mem_map, mem_inOrder]

/-- A list that has a set of transports is made of their words. -/
theorem Canonical.exists_given {vs : List Value} {ts : List Transport} (h : Canonical vs ts) :
    ∃ given : List Transport, vs = given.map Choice.value := by
  rcases named_or_firstUnknown vs with given | ⟨v, unknown, good, rest, rfl⟩
  · exact given
  · obtain ⟨t, -, rfl⟩ := List.mem_map.mp ((h.named v).mpr (by simp))
    exact absurd ⟨t, rfl⟩ unknown

theorem canonicalTransports_values (given : List Transport) :
    canonicalTransports (.list (given.map Choice.value)) = .ok (some (inOrder given)) := by
  rw [canonicalTransports, canonicalItems, coerceTransports_values]
  rfl

theorem canonicalTransports_of_firstUnknown {vs : List Value} {v : Value}
    (h : FirstUnknown vs v) :
    canonicalTransports (.list vs) = .error (.unknownChoice "passkey transport" v) := by
  rw [canonicalTransports, canonicalItems, coerceTransports_of_firstUnknown h]
  rfl

theorem canonicalTransports_of_canonical {vs : List Value} {ts : List Transport}
    (h : Canonical vs ts) : canonicalTransports (.list vs) = .ok (some ts) := by
  obtain ⟨given, rfl⟩ := h.exists_given
  rw [canonicalTransports_values, canonical_values_iff.mp h]

theorem canonicalTransports_eq_ok_iff {vs : List Value} {kept : Option (List Transport)} :
    canonicalTransports (.list vs) = .ok kept ↔ ∃ ts, kept = some ts ∧ Canonical vs ts := by
  constructor
  · intro h
    rcases named_or_firstUnknown vs with ⟨given, rfl⟩ | ⟨v, first⟩
    · rw [canonicalTransports_values] at h
      exact ⟨inOrder given, (Except.ok.inj h).symm, canonical_values_iff.mpr rfl⟩
    · rw [canonicalTransports_of_firstUnknown first] at h
      cases h
  · rintro ⟨ts, rfl, h⟩
    exact canonicalTransports_of_canonical h

theorem canonicalTransports_eq_error_iff {vs : List Value} {f : Fault} :
    canonicalTransports (.list vs) = .error f ↔
      ∃ v, FirstUnknown vs v ∧ f = .unknownChoice "passkey transport" v := by
  constructor
  · intro h
    rcases named_or_firstUnknown vs with ⟨given, rfl⟩ | ⟨v, first⟩
    · rw [canonicalTransports_values] at h
      cases h
    · rw [canonicalTransports_of_firstUnknown first] at h
      exact ⟨v, first, (Except.error.inj h).symm⟩
  · rintro ⟨v, first, rfl⟩
    exact canonicalTransports_of_firstUnknown first

/-- What is kept of a list is told by its elements alone. -/
theorem Canonical.congr {vs ws : List Value} {ts : List Transport} (h : Canonical vs ts)
    (same : ∀ v, v ∈ ws ↔ v ∈ vs) : Canonical ws ts :=
  ⟨h.ordered, h.once, fun v => (h.named v).trans (same v).symm⟩

theorem Canonical.self {vs : List Value} {ts : List Transport} (h : Canonical vs ts) :
    Canonical (ts.map Choice.value) ts :=
  ⟨h.ordered, h.once, fun _ => Iff.rfl⟩

/-! ## Rows -/

/-- The transports of a credential, as they are held, read back and shown; nothing stands for
none. -/
structure PasskeyCredential.Keeps (c : PasskeyCredential) (ts : List Transport) : Prop where
  transports : c.transports = if ts = [] then none else some ts
  column : Fields.get? (Row.columns c) "transports_json" =
    some (if ts = [] then .null else .list (ts.map Choice.value))
  read : RecordKind.passkeyCredential.read (Row.columns c) = .ok c.record
  shown : Fields.get? c.record.fields "transports" =
    some (if ts = [] then .null else .list (ts.map Choice.value))

theorem PasskeyCredential.Keeps.of_transports {c : PasskeyCredential} {ts : List Transport}
    (h : c.transports = if ts = [] then none else some ts) : c.Keeps ts := by
  have value : transportsValue c.transports =
      if ts = [] then .null else .list (ts.map Choice.value) := by
    rw [h]
    split <;> rfl
  have stored : c.Stored := by
    intro empty
    rw [h] at empty
    split at empty
    · cases empty
    · next some_left => exact some_left (Option.some.inj empty)
  refine ⟨h, ?_, read_columns (r := .passkeyCredential c) stored, ?_⟩
  · rw [← value]
    exact Fields.get?_put_self _ _ _
  · rw [← value]
    exact Fields.get?_put_self _ _ _

namespace PasskeyCredentials

/-- One row comes of a registration: a new one, or the one that was there with the new data. -/
theorem ofCredential_register_fresh {rows : List PasskeyCredential} (differ : KeysDiffer rows)
    (r : Registration) (ts : List Transport) (now : Int) :
    ∃ c, ofCredential r.credentialId (register (fresh r (some ts) now) rows).1 = [c] ∧
      c.credentialId = r.credentialId ∧ c.userId = r.userId ∧
      c.transports = if ts = [] then none else some ts := by
  have kept : (fresh r (some ts) now).transports = if ts = [] then none else some ts := by
    cases ts <;> rfl
  have mine : (fresh r (some ts) now).credentialId = r.credentialId := rfl
  rw [ofCredential_register, if_pos mine]
  cases old : ofCredential r.credentialId rows with
  | nil =>
    rw [if_pos rfl]
    exact ⟨_, rfl, rfl, rfl, kept⟩
  | cons first rest =>
    rw [if_neg (List.cons_ne_nil _ _)]
    have known : first ∈ ofCredential r.credentialId rows := by simp [old]
    have hid : first.credentialId = r.credentialId := eq_of_beq (List.mem_filter.mp known).2
    have only : ofCredential r.credentialId rows = [first] := by
      have alone := Rows.filter_key_eq_singleton PasskeyCredential.credentialId
        (differ.column List.mem_cons_self) (List.mem_filter.mp known).1
      rwa [hid] at alone
    rw [old] at only
    rw [only]
    exact ⟨renewed (fresh r (some ts) now) first, rfl, hid, rfl, kept⟩

end PasskeyCredentials

/-! ## Calls -/

/-- Who asks for the credential is given its record, and so is its user, once, among the others. -/
structure PasskeyCredential.FoundIn (c : PasskeyCredential) (p : Portal) : Prop where
  got : (p.call (.passkeyCredentials (.get c.credentialId))).2.outcome =
    .ok (.record (some c.record))
  listed : ∃ listed : List PasskeyCredential,
    (p.call (.passkeyCredentials (.listForUser c.userId))).2.outcome =
      .ok (.records (listed.map PasskeyCredential.record)) ∧
    listed.filter (·.credentialId == c.credentialId) = [c]

theorem PasskeyCredential.FoundIn.of_only {c : PasskeyCredential} {p : Portal} {t : Tables}
    (there : p.tables = some t)
    (only : PasskeyCredentials.ofCredential c.credentialId t.passkeyCredentials = [c]) :
    c.FoundIn p := by
  constructor
  · have found : PasskeyCredentials.answer c.credentialId t.passkeyCredentials =
        .record (some c.record) := by
      rw [PasskeyCredentials.answer, PasskeyCredentials.find?_eq_head?, only]
      rfl
    rw [Portal.outcome_of_effect_ok there (PasskeyCredentials.effect_get _ _ t), found]
  · refine ⟨_, Portal.outcome_listForUser there c.userId, ?_⟩
    have sorting := (List.mergeSort_perm (t.passkeyCredentials.filter (·.userId == c.userId))
      PasskeyCredentials.listedBefore).filter (·.credentialId == c.credentialId)
    have alone : (t.passkeyCredentials.filter (·.userId == c.userId)).filter
        (·.credentialId == c.credentialId) = [c] := by
      rw [List.filter_comm]
      show (PasskeyCredentials.ofCredential c.credentialId t.passkeyCredentials).filter _ = [c]
      rw [only]
      simp
    -- one row is sorted in one way only
    rw [alone] at sorting
    exact List.perm_singleton.mp sorting

namespace PasskeyCredentials

variable {p : Portal} {r : Registration} {given : Value}

theorem outcome_register_error {f : Fault} (refused : canonicalTransports given = .error f) :
    (p.call (.passkeyCredentials (.register r given))).2.outcome = .error f ∧
      (p.call (.passkeyCredentials (.register r given))).1.tables = p.tables := by
  have planned : (Call.passkeyCredentials (.register r given)).plan p.context = .error f := by
    rw [Call.plan, plan, refused]
    rfl
  have attempted : ∀ conn, p.attempt conn (.passkeyCredentials (.register r given)) =
      (p.tables, .error f) := by
    intro conn
    rw [Portal.attempt, Portal.perform, planned]
  exact ⟨congrArg Prod.snd (attempted _), congrArg Prod.fst (attempted _)⟩

theorem effect_register {ts : Option (List Transport)}
    (canonical : canonicalTransports given = .ok ts) (ctx : Context) (t : Tables) :
    (Call.passkeyCredentials (.register r given)).effect ctx t =
      if fitsWord r.counter && fitsWord ctx.clock then
        .ok ({ t with
            passkeyCredentials := (register (fresh r ts ctx.clock) t.passkeyCredentials).1 },
          (register (fresh r ts ctx.clock) t.passkeyCredentials).2)
      else .error .integerOutOfRange := by
  rw [Call.effect, Call.plan, Plan.effectOf_on _ _ _ t fun _ => rfl, plan, canonical, Except.map,
    Plan.effectOf_ok, Plan.effect_update, List.all_cons, List.all_cons, List.all_nil, Bool.and_true]
  split <;> rfl

/-- A registration whose transports are taken needs the schema and integers that fit. -/
theorem outcome_register_ok_iff {ts : Option (List Transport)}
    (canonical : canonicalTransports given = .ok ts) :
    (∃ a, (p.call (.passkeyCredentials (.register r given))).2.outcome = .ok a) ↔
      p.tables ≠ none ∧ fitsWord r.counter = true ∧ fitsWord p.clock = true := by
  cases there : p.tables with
  | none =>
    constructor
    · rintro ⟨a, ha⟩
      have known := (Portal.attempt_none there (.next p.connections) _).2 a ha
      obtain ⟨_, _, other⟩ := Call.eq_find_of_answered known
      cases other
    · exact fun h => absurd rfl h.1
  | some t =>
    have effect := effect_register (r := r) canonical p.context t
    by_cases fits : (fitsWord r.counter && fitsWord p.context.clock) = true
    · rw [if_pos fits] at effect
      rw [Portal.outcome_of_effect_ok there effect]
      exact ⟨fun _ => ⟨nofun, Bool.and_eq_true_iff.mp fits⟩, fun _ => ⟨_, rfl⟩⟩
    · rw [if_neg fits] at effect
      rw [Portal.outcome_of_effect_error there effect]
      constructor
      · rintro ⟨a, ha⟩
        cases ha
      · rintro ⟨-, counter, clock⟩
        exact absurd (Bool.and_eq_true_iff.mpr ⟨counter, clock⟩) fits

/-- A registration that is answered is answered with the row that is found from then on. -/
theorem found_of_register {t : Tables} {ts : List Transport} {a : Answer}
    (there : p.tables = some t) (differ : KeysDiffer t.passkeyCredentials)
    (canonical : canonicalTransports given = .ok (some ts))
    (ok : (p.call (.passkeyCredentials (.register r given))).2.outcome = .ok a) :
    ∃ c : PasskeyCredential, c.credentialId = r.credentialId ∧ c.userId = r.userId ∧ c.Keeps ts ∧
      a = .record (some c.record) ∧
      ∀ s : Portal, s.tables = (p.call (.passkeyCredentials (.register r given))).1.tables →
        c.FoundIn s := by
  have effect := effect_register (r := r) canonical p.context t
  obtain ⟨-, counter, clock⟩ := (outcome_register_ok_iff canonical).mp ⟨a, ok⟩
  have fits : (fitsWord r.counter && fitsWord p.context.clock) = true :=
    Bool.and_eq_true_iff.mpr ⟨counter, clock⟩
  rw [if_pos fits] at effect
  obtain ⟨c, only, hid, huser, htransports⟩ :=
    ofCredential_register_fresh differ r ts p.context.clock
  have answered : (register (fresh r (some ts) p.context.clock) t.passkeyCredentials).2 =
      .record (some c.record) := by
    show answer r.credentialId _ = _
    rw [answer, find?_eq_head?]
    show Answer.record ((ofCredential r.credentialId
      (register (fresh r (some ts) p.context.clock) t.passkeyCredentials).1).head?.map _) = _
    rw [only]
    rfl
  rw [Portal.outcome_of_effect_ok there effect, answered] at ok
  refine ⟨c, hid, huser, .of_transports htransports, (Except.ok.inj ok).symm, ?_⟩
  intro s same
  rw [Portal.tables_of_effect_ok there effect] at same
  rw [← hid] at only
  exact .of_only same only

end PasskeyCredentials

open PasskeyCredentials in
/-- A list of transports is refused just when one of its elements is none, and the first of these is
named; else it is kept as the set of its elements, whatever their order and number, and that set is
kept as it is. After every run a credential that is registered with such a list, as it can be when
the schema is there and the counter and the clock fit their columns, is found with that set. -/
theorem transports_are_kept_as_a_set (settings : Settings) (clock : Int)
    (steps : List Portal.Step) (r : Registration) (vs : List Value) :
    let q := ((Portal.fresh settings clock).run steps).1
    let up : Call := .passkeyCredentials (.register r (.list vs))
    ((∃ v, FirstUnknown vs v) ↔ ∃ v ∈ vs, ¬ NamesTransport v) ∧
    (∀ f, canonicalTransports (.list vs) = .error f ↔
      ∃ v, FirstUnknown vs v ∧ f = .unknownChoice "passkey transport" v ∧
        f.message? = some ("unknown passkey transport: " ++ v.written)) ∧
    (∀ kept, canonicalTransports (.list vs) = .ok kept ↔ ∃ ts, kept = some ts ∧ Canonical vs ts) ∧
    (∀ f, canonicalTransports (.list vs) = .error f →
      (q.call up).2.outcome = .error f ∧ (q.call up).1.tables = q.tables) ∧
    ∀ ts, Canonical vs ts →
      (∀ ws, (∀ v, v ∈ ws ↔ v ∈ vs) → canonicalTransports (.list ws) = .ok (some ts)) ∧
      canonicalTransports (.list (ts.map Choice.value)) = .ok (some ts) ∧
      ((∃ a, (q.call up).2.outcome = .ok a) ↔
        q.tables ≠ none ∧ fitsWord r.counter = true ∧ fitsWord q.clock = true) ∧
      ∀ a, (q.call up).2.outcome = .ok a →
        ∃ c : PasskeyCredential, c.credentialId = r.credentialId ∧ c.userId = r.userId ∧
          c.Keeps ts ∧ a = .record (some c.record) ∧
          ∀ s : Portal, s.tables = (q.call up).1.tables → c.FoundIn s := by
  intro q up
  refine ⟨exists_firstUnknown_iff, ?_, fun kept => canonicalTransports_eq_ok_iff,
    fun f => outcome_register_error, ?_⟩
  · intro f
    rw [canonicalTransports_eq_error_iff]
    constructor
    · rintro ⟨v, first, rfl⟩
      exact ⟨v, first, rfl, rfl⟩
    · rintro ⟨v, first, rfl, -⟩
      exact ⟨v, first, rfl⟩
  · intro ts h
    have canonical := canonicalTransports_of_canonical h
    refine ⟨fun ws same => canonicalTransports_of_canonical (h.congr same),
      canonicalTransports_of_canonical h.self, outcome_register_ok_iff canonical, ?_⟩
    intro a ok
    have course := (Portal.fresh settings clock).run_course steps
    cases there : q.tables with
    | none => exact absurd there ((outcome_register_ok_iff canonical).mp ⟨a, ok⟩).1
    | some t =>
      have differ : t.KeysDiffer := keysDiffer_of_course course t there
      exact found_of_register there differ.passkeyCredentials canonical ok

/-- Transports that are named twice and in disorder are kept in order with a credential that is
there already, and with a list that has a number for one nothing is changed. -/
theorem disordered_transports_are_kept_in_order :
    let r : PasskeyCredentials.Registration := ⟨"c", "u", "w", "k", 1, "multi", false⟩
    let up (vs : List Value) : Call := .passkeyCredentials (.register r (.list vs))
    let half : Value := .number (.ofDigits false 15 (-1))
    let steps : List Portal.Step := [.call (up [.text "cable"]), .advance 5]
    let q := ((Portal.fresh .standard 0).run steps).1
    (∃ c : PasskeyCredential, c.credentialId = "c" ∧ c.userId = "u" ∧ c.Keeps [.usb, .nfc] ∧
      (q.call (up [.text "nfc", .text "usb", .text "nfc"])).2.outcome = .ok (.record (some c.record)) ∧
      c.FoundIn (q.call (up [.text "nfc", .text "usb", .text "nfc"])).1) ∧
    (∃ f : Fault, f.message? = some "unknown passkey transport: 1.5" ∧
      (q.call (up [.text "usb", half, .text "fax"])).2.outcome = .error f) ∧
    (q.call (up [.text "usb", half, .text "fax"])).1.tables = q.tables := by
  intro r up half steps q
  have disordered : Canonical ([.nfc, .usb, .nfc].map (Choice.value (α := Transport)))
      [.usb, .nfc] := canonical_values_iff.mpr rfl
  have stranger : FirstUnknown [.text "usb", half, .text "fax"] half := by
    refine ⟨?_, [.usb], [.text "fax"], rfl⟩
    rintro ⟨t, ht⟩
    simp [half, Choice.value] at ht
  obtain ⟨-, -, -, -, taken⟩ := transports_are_kept_as_a_set .standard 0 steps r
    [.text "nfc", .text "usb", .text "nfc"]
  obtain ⟨-, errors, -, refused, -⟩ := transports_are_kept_as_a_set .standard 0 steps r
    [.text "usb", half, .text "fax"]
  obtain ⟨-, -, answered, found⟩ := taken _ disordered
  have fits : q.tables ≠ none ∧ fitsWord r.counter = true ∧ fitsWord q.clock = true :=
    ⟨Option.some_ne_none _, by decide, by decide⟩
  obtain ⟨a, ok⟩ := answered.mpr fits
  obtain ⟨c, hid, huser, keeps, rfl, everywhere⟩ := found a ok
  obtain ⟨outcome, untouched⟩ := refused _ ((errors _).mpr ⟨half, stranger, rfl, rfl⟩)
  exact ⟨⟨c, hid, huser, keeps, ok, everywhere _ rfl⟩, ⟨_, by rfl, outcome⟩, untouched⟩

end AccountPortal

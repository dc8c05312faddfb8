import AccountPortal.Proofs.Failure.Atomic
import AccountPortal.Proofs.Fields
import AccountPortal.Proofs.Rows

/-!
# Patches one after another

A form tells of some of three columns of a node: what it gives is written, what it gives as nothing
is cleared, and what it does not give is kept. Two forms told at one clock are one form, in which
the later of them wins:

    touched q now (touched p now e) = touched (p.followedBy q) now e        (touched_followedBy)
    patchOf f = .ok p → patchOf g = .ok q →
      patchOf (some (f.merge g)) = .ok (p.followedBy q)                     (patchOf_merge)

so what is told of a node in two calls can be told in one                   (patches_compose).
-/

namespace AccountPortal

namespace ValidationPatch

/-- What either patch gives, and of what both give the value of the second. -/
def followedBy (p q : ValidationPatch) : ValidationPatch where
  sourceIp := q.sourceIp.or p.sourceIp
  countryCode := q.countryCode.or p.countryCode
  vpnDetected := q.vpnDetected.or p.vpnDetected

/-! ## Forms -/

section given

variable {α : Type} {form first second : Fields Value} {name : String} {read : Reader α}

theorem given_of_or {x y : Option (Option α)}
    (told : form.get? name = (second.get? name).or (first.get? name))
    (hx : given first name read = .ok x) (hy : given second name read = .ok y) :
    given form name read = .ok (y.or x) := by
  unfold given at *
  rw [told]
  cases hs : second.get? name with
  | none =>
    rw [hs] at hy
    cases hy
    rw [Option.none_or]
    exact hx
  | some v =>
    rw [hs] at hy
    obtain ⟨a, -, rfl⟩ := Except.map_eq_ok_iff.mp hy
    exact hy

/-- A column before and after a form that may tell of it. -/
structure Told (form : Fields Value) (name : String) (read : Reader α) (old new : Option α) :
    Prop where
  absent : form.get? name = none → new = old
  cleared : form.get? name = some .null → new = none
  written : ∀ v, form.get? name = some v → v ≠ .null → ∃ a, read v = .ok a ∧ new = some a

theorem orNull_of_ne {v : Value} (h : v ≠ .null) : orNull read v = (read v).map some := by
  unfold orNull
  split
  · exact absurd rfl h
  · rfl

theorem told_of_given {x : Option (Option α)} (h : given form name read = .ok x)
    (old : Option α) : Told form name read old (x.getD old) := by
  unfold given at h
  constructor
  · intro absent
    rw [absent] at h
    cases h
    rfl
  · intro null
    rw [null] at h
    cases h
    rfl
  · intro v hv some_left
    rw [hv] at h
    simp only [checkField, orNull_of_ne some_left] at h
    cases hread : read v with
    | error c =>
      rw [hread] at h
      cases h
    | ok a =>
      rw [hread] at h
      cases h
      exact ⟨a, rfl, rfl⟩

end given

theorem surplus_eq_nil_iff {form : Fields Value} :
    surplus form = [] ↔ ∀ name, name ∉ fieldNames → form.get? name = none := by
  unfold surplus
  rw [List.map_eq_nil_iff, List.filter_eq_nil_iff]
  constructor
  · intro h name other
    rw [Fields.get?_eq_none_iff, List.mem_map]
    rintro ⟨e, he, rfl⟩
    exact h e he (by simpa using other)
  · intro h e he other
    have absent := h e.1 (by simpa using other)
    exact Fields.get?_eq_none_iff.mp absent (List.mem_map_of_mem he)

theorem ofForm_eq_ok_iff {form : Fields Value} {p : ValidationPatch} :
    ofForm form = .ok p ↔
      given form "source_ip" readText = .ok p.sourceIp ∧
      given form "country_code" readText = .ok p.countryCode ∧
      given form "vpn_detected" readFlag = .ok p.vpnDetected ∧ surplus form = [] := by
  unfold ofForm
  constructor
  · intro h
    dsimp only at h
    split at h
    · next hp none_left =>
      cases h
      obtain ⟨_, vpn, htwo, hvpn, rfl⟩ := Checked.app_eq_ok_iff.mp hp
      obtain ⟨_, country, hone, hcountry, rfl⟩ := Checked.app_eq_ok_iff.mp htwo
      obtain ⟨_, ip, hmk, hip, rfl⟩ := Checked.app_eq_ok_iff.mp hone
      cases hmk
      exact ⟨hip, hcountry, hvpn, none_left⟩
    · cases h
  · rintro ⟨hip, hcountry, hvpn, none_left⟩
    rw [hip, hcountry, hvpn, none_left]
    rfl

/-- The form that tells both is read as the one patch followed by the other. -/
theorem ofForm_merge {first second : Fields Value} {p q : ValidationPatch}
    (hp : ofForm first = .ok p) (hq : ofForm second = .ok q)
    (distinct : (second.map Prod.fst).Nodup) :
    ofForm (first.merge second) = .ok (p.followedBy q) := by
  have told := first.get?_merge distinct
  obtain ⟨pip, pcountry, pvpn, psurplus⟩ := ofForm_eq_ok_iff.mp hp
  obtain ⟨qip, qcountry, qvpn, qsurplus⟩ := ofForm_eq_ok_iff.mp hq
  rw [ofForm_eq_ok_iff]
  refine ⟨given_of_or (told _) pip qip, given_of_or (told _) pcountry qcountry,
    given_of_or (told _) pvpn qvpn, ?_⟩
  rw [surplus_eq_nil_iff] at *
  intro name other
  rw [told, psurplus name other, qsurplus name other]
  rfl

end ValidationPatch

namespace Enrollments

open ValidationPatch

/-- No form is read as the empty one. -/
theorem patchOf_eq (form : Option (Fields Value)) : patchOf form = ofForm (form.getD []) := by
  cases form <;> rfl

/-! ## Rows -/

/-- The later check leaves what it does not tell as the earlier one left it. -/
theorem touched_followedBy (p q : ValidationPatch) (now : Int) (e : Enrollment) :
    touched q now (touched p now e) = touched (p.followedBy q) now e := by
  obtain ⟨ip, country, vpn⟩ := q
  cases ip <;> cases country <;> cases vpn <;> rfl

/-- A row before and after a check of the node. -/
structure Touches (form : Fields Value) (now : Int) (old new : Enrollment) : Prop where
  lastIp : Told form "source_ip" readText old.lastIp new.lastIp
  lastCountryCode : Told form "country_code" readText old.lastCountryCode new.lastCountryCode
  lastVpnDetected : Told form "vpn_detected" readFlag old.lastVpnDetected new.lastVpnDetected
  lastSeen : new.lastSeen = some now
  updatedAt : new.updatedAt = now
  nodeId : new.nodeId = old.nodeId
  nodeKind : new.nodeKind = old.nodeKind
  ownerUserId : new.ownerUserId = old.ownerUserId
  ownerEmail : new.ownerEmail = old.ownerEmail
  registrationTokenHash : new.registrationTokenHash = old.registrationTokenHash
  emailVerified : new.emailVerified = old.emailVerified
  nodeApproved : new.nodeApproved = old.nodeApproved
  active : new.active = old.active
  createdAt : new.createdAt = old.createdAt

theorem touches_touched {form : Fields Value} {p : ValidationPatch} (h : ofForm form = .ok p)
    (now : Int) (e : Enrollment) : Touches form now e (touched p now e) := by
  obtain ⟨ip, country, vpn, -⟩ := ofForm_eq_ok_iff.mp h
  exact
    { lastIp := told_of_given ip _, lastCountryCode := told_of_given country _
      lastVpnDetected := told_of_given vpn _, lastSeen := rfl, updatedAt := rfl, nodeId := rfl
      nodeKind := rfl, ownerUserId := rfl, ownerEmail := rfl, registrationTokenHash := rfl
      emailVerified := rfl, nodeApproved := rfl, active := rfl, createdAt := rfl }

/-! ## Calls -/

section touch

variable {n : String} {rows : List Enrollment} {form : Option (Fields Value)}
  {patch : ValidationPatch}

/-- Two checks of a node are one, and it is answered with the same row. -/
theorem change_touched_change (n : String) (rows : List Enrollment) (p q : ValidationPatch)
    (now : Int) :
    change n (touched q now) (change n (touched p now) rows).1 =
      change n (touched (p.followedBy q) now) rows := by
  have rows_eq : Rows.change (·.nodeId == n) (touched q now)
      (Rows.change (·.nodeId == n) (touched p now) rows) =
        Rows.change (·.nodeId == n) (touched (p.followedBy q) now) rows := by
    rw [Rows.change_change_of_pass (f := touched p now) fun _ => rfl]
    simp only [touched_followedBy]
  unfold change
  simp only [rows_eq]

theorem effect_touch (h : patchOf form = .ok patch) (ctx : Context) (t : Tables) :
    (Call.enrollments (.touch n form)).effect ctx t =
      if fitsWord ctx.clock then
        .ok ({ t with enrollments := (change n (touched patch ctx.clock) t.enrollments).1 },
          (change n (touched patch ctx.clock) t.enrollments).2)
      else .error .integerOutOfRange := by
  have planned : (Call.enrollments (.touch n form)).plan ctx =
      (Except.ok (.update [ctx.clock] (change n (touched patch ctx.clock)))).map
        (Plan.on Tables.enrollments fun rows t => { t with enrollments := rows }) := by
    rw [Call.plan, plan, h]
  exact Call.effect_of_update ctx _ planned (fun _ => rfl) t

/-- The rows of a change are those before it, each changed where it is if it is of the node. -/
theorem forall₂_change {f : Enrollment → Enrollment} {P : Enrollment → Enrollment → Prop}
    (hf : ∀ e, P e (f e)) :
    List.Forall₂ (fun old new => if old.nodeId = n then P old new else new = old) rows
      (change n f rows).1 := by
  show List.Forall₂ _ rows (Rows.change (·.nodeId == n) f rows)
  unfold Rows.change
  rw [List.forall₂_map_right_iff]
  apply List.forall₂_same.mpr
  intro e _
  by_cases hn : e.nodeId = n
  · simp [hn, hf]
  · simp [hn]

/-- A change is answered with a row of the node as it is then, or with nothing where there is
none. -/
theorem answer_of_change (n : String) (rows : List Enrollment) {f : Enrollment → Enrollment}
    (hf : ∀ e, (f e).nodeId = e.nodeId) :
    ((∃ e ∈ rows, e.nodeId = n) → ∃ e ∈ rows, e.nodeId = n ∧ f e ∈ (change n f rows).1 ∧
      (change n f rows).2 = .record (some (f e).record)) ∧
    ((∀ e ∈ rows, e.nodeId ≠ n) →
      (change n f rows).2 = .record none ∧ (change n f rows).1 = rows) := by
  have answered : (change n f rows).2 =
      .record (((rows.find? (·.nodeId == n)).map f).map Enrollment.record) := by
    show answer n (Rows.change (·.nodeId == n) f rows) = _
    rw [answer, find?, Rows.find?_change]
    intro e he
    rwa [hf]
  rw [answered]
  constructor
  · rintro ⟨e, he, hn⟩
    cases found : rows.find? (·.nodeId == n) with
    | none => exact absurd (beq_iff_eq.mpr hn) (List.find?_eq_none.mp found e he)
    | some first =>
      have known : first ∈ rows := List.mem_of_find?_eq_some found
      have mine : first.nodeId = n := by simpa using List.find?_some found
      exact ⟨first, known, mine,
        Rows.mem_change.mpr ⟨first, known, if_pos (beq_iff_eq.mpr mine)⟩, rfl⟩
  · intro absent
    have other : ∀ e ∈ rows, (e.nodeId == n) = false :=
      fun e he => beq_eq_false_iff_ne.mpr (absent e he)
    have none_left : rows.find? (·.nodeId == n) = none :=
      List.find?_eq_none.mpr fun e he => by simp [other e he]
    rw [none_left]
    exact ⟨rfl, Rows.change_eq_self other⟩

variable {p : Portal} {t : Tables}

theorem touch_of_some (there : p.tables = some t) (fits : fitsWord p.clock = true)
    (h : patchOf form = .ok patch) :
    (p.call (.enrollments (.touch n form))).1.tables =
        some { t with enrollments := (change n (touched patch p.clock) t.enrollments).1 } ∧
      (p.call (.enrollments (.touch n form))).2.outcome =
        .ok (change n (touched patch p.clock) t.enrollments).2 := by
  have effect := effect_touch (n := n) h p.context t
  rw [if_pos (show fitsWord p.context.clock = true from fits)] at effect
  exact ⟨Portal.tables_of_effect_ok there effect, Portal.outcome_of_effect_ok there effect⟩

theorem touch_of_not_fits (there : p.tables = some t) (fits : ¬ fitsWord p.clock = true)
    (h : patchOf form = .ok patch) :
    (p.call (.enrollments (.touch n form))).1.tables = some t ∧
      (p.call (.enrollments (.touch n form))).2.outcome = .error .integerOutOfRange := by
  have effect := effect_touch (n := n) h p.context t
  rw [if_neg (show ¬ fitsWord p.context.clock = true from fits)] at effect
  have made := Portal.attempt_eq_of_effect_error there (.next p.connections) effect
  exact ⟨congrArg Prod.fst made, congrArg Prod.snd made⟩

theorem touch_of_none (n : String) (form : Option (Fields Value)) (there : p.tables = none) :
    (p.call (.enrollments (.touch n form))).1.tables = none ∧
      ∀ a, (p.call (.enrollments (.touch n form))).2.outcome ≠ .ok a := by
  obtain ⟨gone, known⟩ :=
    Portal.attempt_none there (.next p.connections) (.enrollments (.touch n form))
  refine ⟨gone, ?_⟩
  intro a ha
  obtain ⟨_, _, other⟩ := Call.eq_find_of_answered (known a ha)
  cases other

/-- A check fails without the schema, and at a time that no column holds. -/
theorem touch_fails_iff (h : patchOf form = .ok patch) :
    (∃ f, (p.call (.enrollments (.touch n form))).2.outcome = .error f) ↔
      p.tables = none ∨ fitsWord p.clock = false := by
  cases there : p.tables with
  | none =>
    refine iff_of_true ?_ (.inl rfl)
    cases out : (p.call (.enrollments (.touch n form))).2.outcome with
    | ok a => exact absurd out ((touch_of_none n form there).2 a)
    | error f => exact ⟨f, rfl⟩
  | some t =>
    by_cases fits : fitsWord p.clock = true
    · rw [(touch_of_some there fits h).2, fits]
      simp
    · exact iff_of_true ⟨_, (touch_of_not_fits there fits h).2⟩ (.inr (Bool.eq_false_iff.mpr fits))

/-- Two checks at one time leave the tables that one check with both forms leaves, and are answered
alike where there are tables. -/
theorem touch_touch {f g both : Option (Fields Value)} {first second : ValidationPatch}
    (hf : patchOf f = .ok first) (hg : patchOf g = .ok second)
    (hboth : patchOf both = .ok (first.followedBy second)) (there : p.tables = some t) :
    ((p.call (.enrollments (.touch n f))).1.call (.enrollments (.touch n g))).1.tables =
        (p.call (.enrollments (.touch n both))).1.tables ∧
      ((p.call (.enrollments (.touch n f))).1.call (.enrollments (.touch n g))).2.outcome =
        (p.call (.enrollments (.touch n both))).2.outcome := by
  by_cases fits : fitsWord p.clock = true
  · have between := (touch_of_some (n := n) there fits hf).1
    obtain ⟨tables, outcome⟩ :=
      touch_of_some (p := (p.call (.enrollments (.touch n f))).1) (n := n) between fits hg
    obtain ⟨tables', outcome'⟩ := touch_of_some (n := n) there fits hboth
    have rows := change_touched_change n t.enrollments first second p.clock
    rw [tables, outcome, tables', outcome', ← rows]
    exact ⟨rfl, rfl⟩
  · have between := (touch_of_not_fits (n := n) there fits hf).1
    obtain ⟨tables, outcome⟩ :=
      touch_of_not_fits (p := (p.call (.enrollments (.touch n f))).1) (n := n) between fits hg
    obtain ⟨tables', outcome'⟩ := touch_of_not_fits (n := n) there fits hboth
    exact ⟨tables.trans tables'.symm, outcome.trans outcome'.symm⟩

/-- An answered check changes the rows of the node where they are, and nothing else. -/
structure Checks (n : String) (form : Option (Fields Value)) (now : Int) (t u : Tables)
    (a : Answer) : Prop where
  others : u = { t with enrollments := u.enrollments }
  rows : List.Forall₂ (fun old new =>
    if old.nodeId = n then Touches (form.getD []) now old new else new = old)
    t.enrollments u.enrollments
  known : (∃ e ∈ t.enrollments, e.nodeId = n) →
    ∃ old ∈ t.enrollments, ∃ new ∈ u.enrollments, old.nodeId = n ∧
      Touches (form.getD []) now old new ∧ a = .record (some new.record)
  unknown : (∀ e ∈ t.enrollments, e.nodeId ≠ n) → a = .record none ∧ u = t

theorem touch_checks (h : patchOf form = .ok patch) (there : p.tables = some t)
    (fits : fitsWord p.clock = true) :
    ∃ u a, (p.call (.enrollments (.touch n form))).1.tables = some u ∧
      (p.call (.enrollments (.touch n form))).2.outcome = .ok a ∧
      Checks n form p.clock t u a := by
  obtain ⟨tables, outcome⟩ := touch_of_some (n := n) there fits h
  have touches := touches_touched ((patchOf_eq form).symm.trans h) p.clock
  obtain ⟨known, unknown⟩ :=
    answer_of_change n t.enrollments (f := touched patch p.clock) fun _ => rfl
  refine ⟨_, _, tables, outcome, ⟨rfl, forall₂_change touches, ?_, ?_⟩⟩
  · intro there
    obtain ⟨old, hold, mine, hnew, found⟩ := known there
    exact ⟨old, hold, _, hnew, mine, touches old, found⟩
  · intro absent
    obtain ⟨nothing, same⟩ := unknown absent
    exact ⟨nothing, by rw [same]⟩

end touch

end Enrollments

open Enrollments

/-- At one time two checks of a node come to the one that tells what either told and of what both
told the later, be it written as one form or merged from two; telling nothing is the empty form. A
check fails just when there is no schema or its time is out of range, and then changes nothing.
Otherwise it writes what was given, clears what was given as nothing and keeps the rest of the node
and all else; for a node that is not there it is answered with nothing and changes nothing. -/
theorem patches_compose (s : Portal) (n : String) :
    let touch (form : Option (Fields Value)) : Call := .enrollments (.touch n form)
    (∀ f g both p q, patchOf f = .ok p → patchOf g = .ok q →
      patchOf both = .ok (p.followedBy q) →
      let twice := (s.call (touch f)).1.call (touch g)
      let once := s.call (touch both)
      twice.1.tables = once.1.tables ∧
      (∀ a, twice.2.outcome = .ok a ↔ once.2.outcome = .ok a) ∧
      (s.tables ≠ none → twice.2.outcome = once.2.outcome)) ∧
    (∀ f g p q, patchOf f = .ok p → patchOf g = .ok q → ((g.getD []).map Prod.fst).Nodup →
      patchOf (some ((f.getD []).merge (g.getD []))) = .ok (p.followedBy q)) ∧
    s.call (touch none) = s.call (touch (some [])) ∧
    ∀ f p, patchOf f = .ok p →
      let after := s.call (touch f)
      ((∃ fault, after.2.outcome = .error fault) ↔ s.tables = none ∨ fitsWord s.clock = false) ∧
      (∀ fault, after.2.outcome = .error fault → after.1.tables = s.tables) ∧
      ∀ t, s.tables = some t → fitsWord s.clock = true →
        ∃ u a, after.1.tables = some u ∧ after.2.outcome = .ok a ∧ Checks n f s.clock t u a := by
  intro touch
  refine ⟨?_, ?_, rfl, ?_⟩
  · intro f g both p q hf hg hboth twice once
    cases there : s.tables with
    | none =>
      obtain ⟨gone, nothing⟩ := touch_of_none n both there
      have between : (s.call (touch f)).1.tables = none := (touch_of_none n f there).1
      obtain ⟨gone', nothing'⟩ := touch_of_none n g between
      refine ⟨gone'.trans gone.symm, ?_, fun present => absurd rfl present⟩
      exact fun a => iff_of_false (nothing' a) (nothing a)
    | some t =>
      obtain ⟨tables, outcome⟩ := touch_touch (n := n) hf hg hboth there
      exact ⟨tables, fun a => by rw [outcome], fun _ => outcome⟩
  · intro f g p q hf hg distinct
    rw [patchOf_eq] at hf hg ⊢
    exact ValidationPatch.ofForm_merge hf hg distinct
  · intro f p hf after
    refine ⟨touch_fails_iff hf, ?_, fun t there fits => touch_checks hf there fits⟩
    intro fault failed
    exact Portal.tables_of_error failed

/-- A check that tells an address and a finding, and a later one that tells a country and takes the
address back. -/
theorem address_told_and_taken_back :
    let f : Fields Value := [("source_ip", .text "10.0.0.1"), ("vpn_detected", .text "yes")]
    let g : Fields Value := [("country_code", .text "NZ"), ("source_ip", .null)]
    let touch (form : Fields Value) : Call := .enrollments (.touch "n" (some form))
    let s := ((Portal.fresh .standard 0).run
      [.call (.enrollments (.enroll "n" (.text "agent") "u" "u@x" "h" true)), .advance 5]).1
    let once := s.call (touch (f.merge g))
    ((s.call (touch f)).1.call (touch g)).1.tables = once.1.tables ∧
      ((s.call (touch f)).1.call (touch g)).2.outcome = once.2.outcome ∧
      ∃ e : Enrollment, once.2.outcome = .ok (.record (some e.record)) ∧ e.lastIp = none ∧
        e.lastCountryCode = some "NZ" ∧ e.lastVpnDetected = some true ∧ e.lastSeen = some 5 ∧
        e.emailVerified = true ∧ e.createdAt = 0 := by
  intro f g touch s once
  obtain ⟨compose, merged, -, checked⟩ := patches_compose s "n"
  have readf : patchOf (some f) = .ok ⟨some (some "10.0.0.1"), none, some (some true)⟩ := rfl
  have readg : patchOf (some g) = .ok ⟨some none, some (some "NZ"), none⟩ := rfl
  have both := merged _ _ _ _ readf readg (by decide)
  obtain ⟨tables, -, outcome⟩ := compose _ _ _ _ _ readf readg both
  obtain ⟨t, there, rows⟩ : ∃ t, s.tables = some t ∧
      t.enrollments = [fresh "n" .agent "u" "u@x" "h" true 0] := ⟨_, rfl, rfl⟩
  obtain ⟨-, -, carried⟩ := checked _ _ both
  obtain ⟨u, a, -, answered, checks⟩ := carried t there (by decide)
  have known : fresh "n" .agent "u" "u@x" "h" true 0 ∈ t.enrollments := by simp [rows]
  obtain ⟨old, hold, e, -, -, touches, rfl⟩ := checks.known ⟨_, known, rfl⟩
  rw [rows, List.mem_singleton] at hold
  subst hold
  obtain ⟨country, hcountry, told⟩ := touches.lastCountryCode.written (.text "NZ") rfl (by simp)
  obtain ⟨found, hfound, told'⟩ := touches.lastVpnDetected.written (.text "yes") rfl (by simp)
  cases hcountry
  cases hfound
  exact ⟨tables, outcome (by rw [there]; simp), e, answered, touches.lastIp.cleared rfl, told,
    told', touches.lastSeen, touches.emailVerified, touches.createdAt⟩

/-- A node that nobody knows is answered with a fault at a time that no column holds, and where
there is no schema. -/
theorem unknown_node_answered_with_fault :
    let touch : Call := .enrollments (.touch "ghost" none)
    let late := ((Portal.fresh .standard 0).run [.advance 9223372036854775808]).1
    let bare := ((Portal.fresh .standard 0).run [.dropSchema]).1
    late.tables = some .empty ∧ (late.call touch).2.outcome = .error .integerOutOfRange ∧
    bare.tables = none ∧ (bare.call touch).2.outcome = .error .schemaMissing ∧
    ¬ ∀ settings clock steps n form p, patchOf form = .ok p →
      let q := ((Portal.fresh settings clock).run steps).1
      (∀ t, q.tables = some t → ∀ e ∈ t.enrollments, e.nodeId ≠ n) →
        (q.call (.enrollments (.touch n form))).2.outcome = .ok (.record none) := by
  intro touch late bare
  have beyond : (late.call touch).2.outcome = .error .integerOutOfRange := rfl
  refine ⟨rfl, beyond, rfl, rfl, ?_⟩
  intro answers
  have unknown : ∀ t, late.tables = some t → ∀ e ∈ t.enrollments, e.nodeId ≠ "ghost" := by
    rintro t ht e he
    cases ht
    cases he
  have nothing :=
    answers .standard 0 [.advance 9223372036854775808] "ghost" none .empty rfl unknown
  cases beyond.symm.trans nothing

end AccountPortal

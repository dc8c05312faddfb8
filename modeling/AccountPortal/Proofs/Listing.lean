import AccountPortal.Proofs.Query.Unique
import AccountPortal.Proofs.Text.Utf8

/-!
# Listings

Enrollments are listed for their owner and credentials for their user, the latest first and those of
one time by the bytes of their ids. Ids differ, so of two rows one stands strictly before the other:
a listing holds every row that it should, once, in the one order that there is, whatever order the
rows came in:

    Lists time name p rows l → Lists time name p rows' l' →
      (∀ r, p r → (r ∈ rows ↔ r ∈ rows')) → l = l'                             (Lists.unique)
    Lists updatedAt nodeId (·.ownerUserId = user) rows (listByOwner user rows)
                                                                     (Enrollments.lists)
-/

namespace AccountPortal

section order

variable {α : Type} {time : α → Int} {name : α → String}

/-! ## The order -/

/-- The later of two rows, and of two rows of one time the one whose name has the lesser bytes. -/
def Precedes (time : α → Int) (name : α → String) (a b : α) : Prop :=
  time b < time a ∨ (time a = time b ∧ utf8 (name a) < utf8 (name b))

theorem Precedes.asymm {a b : α} (h : Precedes time name a b) : ¬ Precedes time name b a := by
  intro h'
  rcases h with later | ⟨same, least⟩
  · rcases h' with later' | ⟨same', -⟩ <;> omega
  · rcases h' with later' | ⟨-, least'⟩
    · omega
    · exact List.lt_asymm least least'

/-- What the stores sort by. -/
def notAfter (time : α → Int) (name : α → String) (a b : α) : Bool :=
  time b < time a || (time a == time b && textLe (name a) (name b))

theorem notAfter_iff {a b : α} :
    notAfter time name a b = true ↔
      time b < time a ∨ (time a = time b ∧ utf8 (name a) ≤ utf8 (name b)) := by
  simp [notAfter, textLe]

theorem notAfter_trans (a b c : α) (hab : notAfter time name a b = true)
    (hbc : notAfter time name b c = true) : notAfter time name a c = true := by
  rw [notAfter_iff] at *
  rcases hab with hab | ⟨hab, least⟩
  · exact .inl (by omega)
  · rcases hbc with hbc | ⟨hbc, least'⟩
    · exact .inl (by omega)
    · exact .inr ⟨hab.trans hbc, List.le_trans least least'⟩

theorem notAfter_total (a b : α) : (notAfter time name a b || notAfter time name b a) = true := by
  rw [Bool.or_eq_true, notAfter_iff, notAfter_iff]
  rcases Int.lt_trichotomy (time a) (time b) with h | h | h
  · exact .inr (.inl h)
  · rcases List.le_total (utf8 (name a)) (utf8 (name b)) with least | least
    · exact .inl (.inr ⟨h, least⟩)
    · exact .inr (.inr ⟨h.symm, least⟩)
  · exact .inl (.inl h)

/-- Two names have different bytes, so no tie is left. -/
theorem precedes_of_notAfter {a b : α} (h : notAfter time name a b = true)
    (differ : name a ≠ name b) : Precedes time name a b := by
  rcases notAfter_iff.mp h with later | ⟨same, least⟩
  · exact .inl later
  · exact .inr ⟨same, Std.lt_of_le_of_ne least fun h => differ (Utf8.utf8_injective h)⟩

/-! ## Rows in order -/

/-- The rows that pass, each once, and each before those after it. -/
structure Lists (time : α → Int) (name : α → String) (p : α → Prop) (rows listed : List α) :
    Prop where
  mem_iff : ∀ r, r ∈ listed ↔ r ∈ rows ∧ p r
  once : listed.Nodup
  ordered : listed.Pairwise (Precedes time name)

/-- One order of the rows that pass is all there is. -/
theorem Lists.unique {p : α → Prop} {rows rows' listed listed' : List α}
    (h : Lists time name p rows listed) (h' : Lists time name p rows' listed')
    (same : ∀ r, p r → (r ∈ rows ↔ r ∈ rows')) : listed = listed' := by
  have perm : listed.Perm listed' := by
    rw [List.perm_ext_iff_of_nodup h.once h'.once]
    intro r
    rw [h.mem_iff, h'.mem_iff]
    exact and_congr_left fun pass => same r pass
  exact perm.eq_of_pairwise (fun a b _ _ hab hba => absurd hba hab.asymm) h.ordered h'.ordered

/-- Sorting lists the rows that pass, where names differ. -/
theorem lists_mergeSort {rows : List α} (distinct : (rows.map name).Nodup) {p : α → Bool}
    {q : α → Prop} (hp : ∀ r, p r = true ↔ q r) :
    Lists time name q rows ((rows.filter p).mergeSort (notAfter time name)) := by
  have sorting := List.mergeSort_perm (rows.filter p) (notAfter time name)
  have names : (((rows.filter p).mergeSort (notAfter time name)).map name).Nodup :=
    (sorting.map name).nodup_iff.mpr (distinct.sublist (List.filter_sublist.map name))
  refine ⟨?_, List.Nodup.of_map name names, ?_⟩
  · intro r
    rw [List.mem_mergeSort, List.mem_filter, hp]
  · have sorted : ((rows.filter p).mergeSort (notAfter time name)).Pairwise fun a b =>
        notAfter time name a b = true :=
      List.pairwise_mergeSort notAfter_trans notAfter_total _
    -- sorted rows may tie, and rows of different names do not
    exact (sorted.and (List.pairwise_map.mp names)).imp fun h => precedes_of_notAfter h.1 h.2

end order

/-! ## The two stores -/

theorem Enrollments.lists {rows : List Enrollment} (h : KeysDiffer rows) (user : String) :
    Lists Enrollment.updatedAt Enrollment.nodeId (·.ownerUserId = user) rows
      (listByOwner user rows) :=
  lists_mergeSort (h.column List.mem_cons_self) fun _ => beq_iff_eq

theorem PasskeyCredentials.lists {rows : List PasskeyCredential} (h : KeysDiffer rows)
    (user : String) :
    Lists PasskeyCredential.createdAt PasskeyCredential.credentialId (·.userId = user) rows
      (listForUser user rows) :=
  lists_mergeSort (h.column List.mem_cons_self) fun _ => beq_iff_eq

namespace Portal

variable {p : Portal} {t : Tables}

theorem outcome_listByOwner (there : p.tables = some t) (user : String) :
    (p.call (.enrollments (.listByOwner user))).2.outcome =
      .ok (.records ((Enrollments.listByOwner user t.enrollments).map Enrollment.record)) :=
  outcome_of_effect_ok there rfl

theorem outcome_listForUser (there : p.tables = some t) (user : String) :
    (p.call (.passkeyCredentials (.listForUser user))).2.outcome =
      .ok (.records ((PasskeyCredentials.listForUser user t.passkeyCredentials).map
        PasskeyCredential.record)) :=
  outcome_of_effect_ok there rfl

/-- A row is found by its id. -/
theorem outcome_get_enrollment (there : p.tables = some t) (differ : KeysDiffer t.enrollments)
    {e : Enrollment} (he : e ∈ t.enrollments) :
    (p.call (.enrollments (.get e.nodeId))).2.outcome = .ok (.record (some e.record)) := by
  have found : Enrollments.find? e.nodeId t.enrollments = some e :=
    (Rows.find?_key_eq_some_iff (differ.column List.mem_cons_self)).mpr ⟨he, rfl⟩
  have answered : Enrollments.answer e.nodeId t.enrollments = .record (some e.record) := by
    rw [Enrollments.answer, found]
    rfl
  rw [← answered]
  exact outcome_of_effect_ok there rfl

theorem outcome_get_credential (there : p.tables = some t)
    (differ : KeysDiffer t.passkeyCredentials) {c : PasskeyCredential}
    (hc : c ∈ t.passkeyCredentials) :
    (p.call (.passkeyCredentials (.get c.credentialId))).2.outcome =
      .ok (.record (some c.record)) := by
  have found : PasskeyCredentials.find? c.credentialId t.passkeyCredentials = some c :=
    (Rows.find?_key_eq_some_iff (differ.column List.mem_cons_self)).mpr ⟨hc, rfl⟩
  have answered : PasskeyCredentials.answer c.credentialId t.passkeyCredentials =
      .record (some c.record) := by
    rw [PasskeyCredentials.answer, found]
    rfl
  rw [← answered]
  exact outcome_of_effect_ok there rfl

end Portal

/-- After every run that leaves the schema, a listing of the nodes or of the credentials of a user
holds each of them once, as a look-up of its id finds it, and nothing else, strictly in order; and
after any other run that leaves the same of them, of whatever settings and times, it is the same. -/
theorem listings_are_complete_and_ordered (settings : Settings) (clock : Int)
    (steps : List Portal.Step) (t : Tables)
    (there : ((Portal.fresh settings clock).run steps).1.tables = some t) (user : String) :
    let q := ((Portal.fresh settings clock).run steps).1
    (∃ listed : List Enrollment,
      (q.call (.enrollments (.listByOwner user))).2.outcome =
        .ok (.records (listed.map Enrollment.record)) ∧
      Lists Enrollment.updatedAt Enrollment.nodeId (·.ownerUserId = user) t.enrollments listed ∧
      ∀ e ∈ listed, (q.call (.enrollments (.get e.nodeId))).2.outcome =
        .ok (.record (some e.record))) ∧
    (∃ listed : List PasskeyCredential,
      (q.call (.passkeyCredentials (.listForUser user))).2.outcome =
        .ok (.records (listed.map PasskeyCredential.record)) ∧
      Lists PasskeyCredential.createdAt PasskeyCredential.credentialId (·.userId = user)
        t.passkeyCredentials listed ∧
      ∀ c ∈ listed, (q.call (.passkeyCredentials (.get c.credentialId))).2.outcome =
        .ok (.record (some c.record))) ∧
    ∀ settings' clock' steps' t',
      let q' := ((Portal.fresh settings' clock').run steps').1
      q'.tables = some t' →
      ((∀ e : Enrollment, e.ownerUserId = user → (e ∈ t'.enrollments ↔ e ∈ t.enrollments)) →
        (q'.call (.enrollments (.listByOwner user))).2.outcome =
          (q.call (.enrollments (.listByOwner user))).2.outcome) ∧
      ((∀ c : PasskeyCredential, c.userId = user →
          (c ∈ t'.passkeyCredentials ↔ c ∈ t.passkeyCredentials)) →
        (q'.call (.passkeyCredentials (.listForUser user))).2.outcome =
          (q.call (.passkeyCredentials (.listForUser user))).2.outcome) := by
  intro q
  have differ : t.KeysDiffer :=
    keysDiffer_of_course ((Portal.fresh settings clock).run_course steps) t there
  have nodes := Enrollments.lists differ.enrollments user
  have credentials := PasskeyCredentials.lists differ.passkeyCredentials user
  refine ⟨⟨_, Portal.outcome_listByOwner there user, nodes, ?_⟩,
    ⟨_, Portal.outcome_listForUser there user, credentials, ?_⟩, ?_⟩
  · intro e he
    exact Portal.outcome_get_enrollment there differ.enrollments ((nodes.mem_iff e).mp he).1
  · intro c hc
    exact Portal.outcome_get_credential there differ.passkeyCredentials
      ((credentials.mem_iff c).mp hc).1
  · intro settings' clock' steps' t' q' there'
    have differ' : t'.KeysDiffer :=
      keysDiffer_of_course ((Portal.fresh settings' clock').run_course steps') t' there'
    constructor
    · intro same
      rw [Portal.outcome_listByOwner there, Portal.outcome_listByOwner there',
        (Enrollments.lists differ'.enrollments user).unique nodes same]
    · intro same
      rw [Portal.outcome_listForUser there, Portal.outcome_listForUser there',
        (PasskeyCredentials.lists differ'.passkeyCredentials user).unique credentials same]

/-- Two nodes that enroll at one time, in either order, and one that enrolls later. -/
theorem nodes_of_one_time_listed_alike :
    let enroll (n : String) : Portal.Step :=
      .call (.enrollments (.enroll n (.text "agent") "u" "u@x" "h" false))
    let node (n : String) (now : Int) : Enrollment :=
      Enrollments.fresh n .agent "u" "u@x" "h" false now
    let steps : List Portal.Step := [enroll "b", enroll "a", .advance 5, enroll "c"]
    let steps' : List Portal.Step := [enroll "a", enroll "b", .advance 5, enroll "c"]
    let q := ((Portal.fresh .standard 0).run steps).1
    let q' := ((Portal.fresh .standard 0).run steps').1
    (∃ t, q.tables = some t ∧ t.enrollments = [node "b" 0, node "a" 0, node "c" 5]) ∧
    (∃ t, q'.tables = some t ∧ t.enrollments = [node "a" 0, node "b" 0, node "c" 5]) ∧
    (q.call (.enrollments (.listByOwner "u"))).2.outcome =
      .ok (.records ([node "c" 5, node "a" 0, node "b" 0].map Enrollment.record)) ∧
    (q'.call (.enrollments (.listByOwner "u"))).2.outcome =
      (q.call (.enrollments (.listByOwner "u"))).2.outcome := by
  intro enroll node steps steps' q q'
  obtain ⟨t, there, rows⟩ : ∃ t, q.tables = some t ∧
      t.enrollments = [node "b" 0, node "a" 0, node "c" 5] := ⟨_, rfl, rfl⟩
  obtain ⟨t', there', rows'⟩ : ∃ t, q'.tables = some t ∧
      t.enrollments = [node "a" 0, node "b" 0, node "c" 5] := ⟨_, rfl, rfl⟩
  obtain ⟨⟨listed, answered, lists, -⟩, -, alike⟩ :=
    listings_are_complete_and_ordered .standard 0 steps t there "u"
  have inOrder : Lists Enrollment.updatedAt Enrollment.nodeId (·.ownerUserId = "u") t.enrollments
      [node "c" 5, node "a" 0, node "b" 0] := by
    rw [rows]
    refine ⟨?_, by decide, ?_⟩
    · intro r
      simp only [List.mem_cons, List.not_mem_nil, or_false]
      constructor
      · rintro (rfl | rfl | rfl) <;> simp [node, Enrollments.fresh]
      · rintro ⟨rfl | rfl | rfl, -⟩ <;> simp
    · have tie : utf8 "a" < utf8 "b" := by decide
      simp [Precedes, node, Enrollments.fresh, tie]
  refine ⟨⟨t, there, rows⟩, ⟨t', there', rows'⟩, ?_, ?_⟩
  · rw [answered, lists.unique inOrder fun _ _ => Iff.rfl]
  · refine (alike .standard 0 steps' t' there').1 fun e _ => ?_
    rw [rows, rows']
    simp only [List.mem_cons, List.not_mem_nil, or_false]
    tauto

end AccountPortal

import AccountPortal.Credential.PasskeyPayload
import AccountPortal.Proofs.Base64Url.Canonical

/-!
# What is normalised in a payload

A payload keeps its entries and their order. Its credential id, when it has one, is written under
`id` and `rawId`, and its response, a record now in any case, has the canonical form of its binary
fields where they have one:

    ((putIdentifier p).put "response" r).get? name = …        (get?_putIdentifier)
    (normalizeResponse v).get? name =
      (v.entries.get? name).map fun v => if name ∈ binaryFields then v.normalized else v
                                                              (get?_normalizeResponse)

A payload without blanks inside its texts is left as it is when it is normalised again
(`normalizePayload_again`).
-/

namespace AccountPortal

open Base64Url

/-! ## Identifiers under several names -/

section Identifiers

variable {v w : Value} {names : List String} {id : String}

theorem firstIdentifier?_cons (v : Value) (name : String) (names : List String) :
    firstIdentifier? v (name :: names) =
      (identifier? (v.get name)).or (firstIdentifier? v names) := by
  unfold firstIdentifier?
  rw [List.findSome?_cons]
  cases identifier? (v.get name) <;> rfl

theorem firstIdentifier?_eq_none_iff :
    firstIdentifier? v names = none ↔ ∀ name ∈ names, identifier? (v.get name) = none :=
  List.findSome?_eq_none_iff

theorem exists_of_firstIdentifier? (h : firstIdentifier? v names = some id) :
    ∃ name ∈ names, identifier? (v.get name) = some id :=
  List.exists_of_findSome?_eq_some h

end Identifiers

/-! ## The response -/

/-- The canonical form in place of a value that has one and not an empty one. -/
def Value.normalized (v : Value) : Value := ((identifier? v).map .text).getD v

section Response

variable {response : Fields Value} {names : List String}

theorem normalizeField_of_none {name : String}
    (h : (response.get? name).bind identifier? = none) :
    normalizeField response name = response := by
  rw [normalizeField, h]

theorem normalizeField_of_some {name s : String}
    (h : (response.get? name).bind identifier? = some s) :
    normalizeField response name = response.put name (.text s) := by
  rw [normalizeField, h]

theorem get?_normalizeField (response : Fields Value) (name other : String) :
    (normalizeField response name).get? other =
      (response.get? other).map fun v => if other = name then v.normalized else v := by
  cases h : (response.get? name).bind identifier? with
  | none =>
    rw [normalizeField_of_none h]
    by_cases same : other = name
    · subst same
      cases hv : response.get? other with
      | none => rfl
      | some v =>
        rw [hv, Option.bind_some] at h
        simp [Value.normalized, h]
    · simp [same]
  | some s =>
    rw [normalizeField_of_some h]
    by_cases same : other = name
    · subst same
      obtain ⟨v, hv, hs⟩ := Option.bind_eq_some_iff.1 h
      simp [hv, Value.normalized, hs]
    · rw [Fields.get?_put_of_ne _ _ same]
      simp [same]

theorem names_normalizeField (response : Fields Value) (name : String) :
    (normalizeField response name).map Prod.fst = response.map Prod.fst := by
  cases h : (response.get? name).bind identifier? with
  | none => rw [normalizeField_of_none h]
  | some s =>
    obtain ⟨v, hv, -⟩ := Option.bind_eq_some_iff.1 h
    have there : name ∈ response.map Prod.fst := by
      by_contra missing
      rw [Fields.get?_eq_none_iff.2 missing] at hv
      cases hv
    rw [normalizeField_of_some h, Fields.names_put, if_pos there]

/-- Each name is visited once, so no field is normalised twice. -/
theorem get?_foldl_normalizeField (distinct : names.Nodup) (response : Fields Value)
    (other : String) :
    (names.foldl normalizeField response).get? other =
      (response.get? other).map fun v => if other ∈ names then v.normalized else v := by
  induction names generalizing response with
  | nil => simp
  | cons name rest ih =>
    obtain ⟨once, later⟩ := List.nodup_cons.1 distinct
    rw [List.foldl_cons, ih later, get?_normalizeField, Option.map_map]
    congr 1
    funext v
    by_cases same : other = name
    · subst same
      simp [once]
    · simp [same]

theorem names_foldl_normalizeField (names : List String) (response : Fields Value) :
    (names.foldl normalizeField response).map Prod.fst = response.map Prod.fst := by
  induction names generalizing response with
  | nil => rfl
  | cons name rest ih => rw [List.foldl_cons, ih, names_normalizeField]

theorem get?_normalizeResponse (v : Value) (name : String) :
    (normalizeResponse v).get? name =
      (v.entries.get? name).map fun v => if name ∈ binaryFields then v.normalized else v :=
  get?_foldl_normalizeField (by decide) v.entries name

theorem names_normalizeResponse (v : Value) :
    (normalizeResponse v).map Prod.fst = v.entries.map Prod.fst :=
  names_foldl_normalizeField binaryFields v.entries

theorem foldl_normalizeField_eq_self
    (normal : ∀ name ∈ names, ∀ v, response.get? name = some v → v.normalized = v) :
    names.foldl normalizeField response = response := by
  induction names with
  | nil => rfl
  | cons name rest ih =>
    obtain ⟨here, later⟩ := List.forall_mem_cons.1 normal
    have same : normalizeField response name = response := by
      cases h : (response.get? name).bind identifier? with
      | none => exact normalizeField_of_none h
      | some s =>
        obtain ⟨v, hv, hs⟩ := Option.bind_eq_some_iff.1 h
        have text := here v hv
        rw [Value.normalized, hs, Option.map_some, Option.getD_some] at text
        rw [normalizeField_of_some h, text]
        exact Fields.put_eq_self hv
    rw [List.foldl_cons, same, ih later]

theorem normalized_normalized {v : Value}
    (solid : ∀ s, identifier? v = some s → EndsSolid s.toList) :
    v.normalized.normalized = v.normalized := by
  cases h : identifier? v with
  | none => simp only [Value.normalized, h, Option.map_none, Option.getD_none]
  | some s =>
    have again := identifier?_again h (solid s h)
    simp only [Value.normalized, h, again, Option.map_some, Option.getD_some]

end Response

/-! ## The payload -/

section Payload

variable {p : Fields Value} {id : String}

/-- The credential id of a payload. -/
def payloadId? (p : Fields Value) : Option String :=
  firstIdentifier? (.record p) ["rawId", "credentialId", "id"]

/-- The entries of a normalised payload. -/
def normalizedEntries (p : Fields Value) : Fields Value :=
  (putIdentifier p).put "response" (.record (normalizeResponse ((Value.record p).get "response")))

theorem normalizePayload_record (p : Fields Value) :
    normalizePayload (.record p) = .record (normalizedEntries p) := rfl

theorem putIdentifier_of_none (h : payloadId? p = none) : putIdentifier p = p := by
  rw [payloadId?] at h
  rw [putIdentifier, h]

theorem putIdentifier_of_some (h : payloadId? p = some id) :
    putIdentifier p = (p.put "id" (.text id)).put "rawId" (.text id) := by
  rw [payloadId?] at h
  rw [putIdentifier, h]

theorem get?_putIdentifier (p : Fields Value) (name : String) :
    (putIdentifier p).get? name =
      if name = "id" ∨ name = "rawId" then ((payloadId? p).map .text).or (p.get? name)
      else p.get? name := by
  cases h : payloadId? p with
  | none => simp [putIdentifier_of_none h]
  | some id =>
    rw [putIdentifier_of_some h]
    by_cases raw : name = "rawId"
    · subst raw
      simp
    · rw [Fields.get?_put_of_ne _ _ raw]
      by_cases plain : name = "id"
      · subst plain
        simp
      · rw [Fields.get?_put_of_ne _ _ plain]
        simp [raw, plain]

theorem get?_normalizedEntries (p : Fields Value) {name : String} (h : name ≠ "response") :
    (normalizedEntries p).get? name =
      if name = "id" ∨ name = "rawId" then ((payloadId? p).map .text).or (p.get? name)
      else p.get? name := by
  rw [normalizedEntries, Fields.get?_put_of_ne _ _ h, get?_putIdentifier]

theorem get?_normalizedEntries_of_some (picked : payloadId? p = some id) {name : String}
    (mem : name = "id" ∨ name = "rawId") : (normalizedEntries p).get? name = some (.text id) := by
  have other : name ≠ "response" := by
    rintro rfl
    revert mem
    decide
  rw [get?_normalizedEntries p other, if_pos mem, picked, Option.map_some, Option.some_or]

/-- Without an id only the response changes. -/
theorem get?_normalizedEntries_of_none (unpicked : payloadId? p = none) {name : String}
    (other : name ≠ "response") : (normalizedEntries p).get? name = p.get? name := by
  rw [get?_normalizedEntries p other, unpicked, Option.map_none, Option.none_or, ite_self]

theorem get?_response_normalizedEntries (p : Fields Value) :
    (normalizedEntries p).get? "response" =
      some (.record (normalizeResponse ((Value.record p).get "response"))) :=
  Fields.get?_put_self _ _ _

theorem names_normalizedEntries (p : Fields Value) :
    (normalizedEntries p).map Prod.fst = p.map Prod.fst ++
      ((if (payloadId? p).isSome then ["id", "rawId"] else []) ++ ["response"]).filter
        (· ∉ p.map Prod.fst) := by
  cases h : payloadId? p with
  | none =>
    rw [normalizedEntries, putIdentifier_of_none h, Fields.names_put]
    by_cases response : "response" ∈ p.map Prod.fst <;> simp [response]
  | some id =>
    rw [normalizedEntries, putIdentifier_of_some h]
    simp only [Fields.names_put]
    by_cases plain : "id" ∈ p.map Prod.fst <;> by_cases raw : "rawId" ∈ p.map Prod.fst <;>
      by_cases response : "response" ∈ p.map Prod.fst <;> simp [plain, raw, response]

/-! ## Once more -/

/-- The id that was written is found again by all who look first where it was written and then
under some of the names it was picked from. -/
theorem firstIdentifier?_normalizedEntries {name : String} {rest : List String}
    (first : name = "id" ∨ name = "rawId")
    (picked : ∀ n ∈ name :: rest, n ∈ ["rawId", "credentialId", "id"])
    (solid : ∀ id, payloadId? p = some id → EndsSolid id.toList) :
    firstIdentifier? (.record (normalizedEntries p)) (name :: rest) = payloadId? p := by
  cases h : payloadId? p with
  | none =>
    refine firstIdentifier?_eq_none_iff.2 fun n mem => ?_
    have other : n ≠ "response" := by
      rintro rfl
      exact absurd (picked _ mem) (by decide)
    rw [Value.get, get?_normalizedEntries_of_none h other, ← Value.get]
    exact firstIdentifier?_eq_none_iff.1 h n (picked n mem)
  | some id =>
    obtain ⟨source, -, hid⟩ := exists_of_firstIdentifier? h
    have written : (Value.record (normalizedEntries p)).get name = .text id := by
      rw [Value.get, get?_normalizedEntries_of_some h first, Option.getD_some]
    rw [firstIdentifier?_cons, written, identifier?_again hid (solid id h), Option.some_or]

theorem payloadId?_normalizedEntries (solid : ∀ id, payloadId? p = some id → EndsSolid id.toList) :
    payloadId? (normalizedEntries p) = payloadId? p :=
  firstIdentifier?_normalizedEntries (.inr rfl) (fun _ mem => mem) solid

theorem putIdentifier_normalizedEntries
    (solid : ∀ id, payloadId? p = some id → EndsSolid id.toList) :
    putIdentifier (normalizedEntries p) = normalizedEntries p := by
  have same := payloadId?_normalizedEntries solid
  cases h : payloadId? p with
  | none =>
    rw [h] at same
    exact putIdentifier_of_none same
  | some id =>
    have plain := get?_normalizedEntries_of_some h (.inl rfl)
    have raw := get?_normalizedEntries_of_some h (.inr rfl)
    rw [h] at same
    rw [putIdentifier_of_some same, Fields.put_eq_self plain, Fields.put_eq_self raw]

theorem normalizeResponse_again {v : Value}
    (solid : ∀ name ∈ binaryFields, ∀ s, identifier? ((Value.record v.entries).get name) = some s →
      EndsSolid s.toList) :
    normalizeResponse (.record (normalizeResponse v)) = normalizeResponse v := by
  refine foldl_normalizeField_eq_self fun name mem w hw => ?_
  change (normalizeResponse v).get? name = some w at hw
  rw [get?_normalizeResponse] at hw
  simp only [mem, if_true] at hw
  obtain ⟨u, hu, rfl⟩ := Option.map_eq_some_iff.1 hw
  refine normalized_normalized fun s hs => solid name mem s ?_
  simpa [Value.get, hu] using hs

/-- What was written is found where it is written again. -/
theorem normalizePayload_again (picked : ∀ id, payloadId? p = some id → EndsSolid id.toList)
    (binary : ∀ name ∈ binaryFields, ∀ s,
      identifier? ((Value.record ((Value.record p).get "response").entries).get name) = some s →
        EndsSolid s.toList) :
    normalizePayload (normalizePayload (.record p)) = normalizePayload (.record p) := by
  have there := get?_response_normalizedEntries p
  have response : (Value.record (normalizedEntries p)).get "response" =
      .record (normalizeResponse ((Value.record p).get "response")) := by
    rw [Value.get, there, Option.getD_some]
  rw [normalizePayload_record, normalizePayload_record]
  congr 1
  rw [show normalizedEntries (normalizedEntries p) = (putIdentifier (normalizedEntries p)).put
      "response" (.record (normalizeResponse ((Value.record (normalizedEntries p)).get
        "response"))) from rfl, putIdentifier_normalizedEntries picked, response,
    normalizeResponse_again binary]
  exact Fields.put_eq_self there

/-- What is no record is left alone. A record keeps its entries: its id is written under two names,
if one of three values has a canonical form that is not empty, it gets a response if it has none,
and all other entries are as they were. The response is a record of the entries that were in it,
none if it was no record, and of these only the binary fields change, to their canonical form where
that is there and not empty. A payload whose ids and binary fields have no blanks inside is final
after that. -/
theorem payload_changes_ids_and_binary_fields_alone :
    (∀ v : Value, (∀ p, v ≠ .record p) → normalizePayload v = v) ∧
    ∀ p : Fields Value, ∃ q response : Fields Value,
      let given := ((Value.record p).get "response").entries
      let id := firstIdentifier? (.record p) ["rawId", "credentialId", "id"]
      normalizePayload (.record p) = .record q ∧
      q.map Prod.fst = p.map Prod.fst ++
        ((if id.isSome then ["id", "rawId"] else []) ++ ["response"]).filter
          (· ∉ p.map Prod.fst) ∧
      (∀ s, id = some s → q.get? "id" = some (.text s) ∧ q.get? "rawId" = some (.text s)) ∧
      (∀ name, name ≠ "response" → (name ∈ ["id", "rawId"] → id = none) →
        q.get? name = p.get? name) ∧
      q.get? "response" = some (.record response) ∧
      response.map Prod.fst = given.map Prod.fst ∧
      (∀ name, name ∉ binaryFields → response.get? name = given.get? name) ∧
      (∀ name ∈ binaryFields, response.get? name =
        (given.get? name).map fun v => ((identifier? v).map .text).getD v) ∧
      ((∀ name ∈ ["rawId", "credentialId", "id"], Compact ((Value.record p).get name)) →
        (∀ name ∈ binaryFields, Compact ((Value.record given).get name)) →
        normalizePayload (.record q) = .record q) := by
  constructor
  · intro v other
    cases v with
    | record p => exact absurd rfl (other p)
    | _ => rfl
  · intro p
    refine ⟨normalizedEntries p, normalizeResponse ((Value.record p).get "response"), rfl,
      names_normalizedEntries p, ?_, ?_, get?_response_normalizedEntries p,
      names_normalizeResponse _, ?_, ?_, ?_⟩
    · intro s hs
      have picked : payloadId? p = some s := hs
      exact ⟨get?_normalizedEntries_of_some picked (.inl rfl),
        get?_normalizedEntries_of_some picked (.inr rfl)⟩
    · intro name other unpicked
      by_cases mem : name = "id" ∨ name = "rawId"
      · exact get?_normalizedEntries_of_none (unpicked (by simpa using mem)) other
      · rw [get?_normalizedEntries p other, if_neg mem]
    · intro name other
      simp only [get?_normalizeResponse, other, if_false, Option.map_id']
    · intro name mem
      simp only [get?_normalizeResponse, mem, if_true]
      rfl
    · intro ids fields
      rw [← normalizePayload_record]
      refine normalizePayload_again ?_ ?_
      · intro s hs
        obtain ⟨name, mem, found⟩ := exists_of_firstIdentifier? hs
        exact (ids name mem).endsSolid (identifier?_eq_some_iff.1 found).1
      · intro name mem s found
        exact (fields name mem).endsSolid (identifier?_eq_some_iff.1 found).1

/-- A payload whose id is found under the first name, with an entry of its own, a field that has a
canonical form, one that is empty and one that is no binary field. -/
theorem payload_with_raw_id_and_signature :
    let given : Fields Value := [("x", .text "a b="), ("signature", .text "c2ln/w=="),
      ("userHandle", .text "====")]
    let p : Fields Value := [("type", .text "public-key"), ("id", .int 5),
      ("rawId", .text " a+/= "), ("response", .record given)]
    let q : Fields Value := [("type", .text "public-key"), ("id", .text "a-_"),
      ("rawId", .text "a-_"), ("response", .record [("x", .text "a b="),
        ("signature", .text "c2ln_w"), ("userHandle", .text "====")])]
    normalizePayload (.record p) = .record q ∧ normalizePayload (.record q) = .record q ∧
      q.get? "rawId" = some (.text "a-_") ∧ q.get? "type" = p.get? "type" ∧
      normalizePayload (.text " a+ ") = .text " a+ " := by
  intro given p q
  obtain ⟨alone, touched⟩ := payload_changes_ids_and_binary_fields_alone
  obtain ⟨q', response, whole, -, written, kept, -, -, -, -, final⟩ := touched p
  have normal : normalizePayload (.record p) = .record q := by rfl
  obtain rfl : q = q' := Value.record.inj (normal.symm.trans whole)
  have picked : firstIdentifier? (.record p) ["rawId", "credentialId", "id"] = some "a-_" := by rfl
  have ids : ∀ name ∈ ["rawId", "credentialId", "id"], Compact ((Value.record p).get name) := by
    decide
  have fields : ∀ name ∈ binaryFields,
      Compact ((Value.record ((Value.record p).get "response").entries).get name) := by
    decide
  refine ⟨normal, final ids fields, (written "a-_" picked).2, ?_, alone _ ?_⟩
  · exact kept "type" (by decide) fun mem => absurd mem (by decide)
  · rintro p' ⟨⟩

end Payload

end AccountPortal

import AccountPortal.Proofs.Credential.Payload

/-!
# The credential id of a request

The id at the top of a request goes first. Without one, a response as it came gives its own `id`
before what it has under other names, and a normalised response the other way round, for these
names go first when the payload is normalised:

    credentialIdOfBody? (.record body) = explicit.or (own.or other)
    credentialIdOfBody? (.record (body.put "response" normalized)) = explicit.or (other.or own)

So the two agree unless the `id` of the response and the first of its other ids are two different
ones (`same_id_from_normalized_response_iff`).
-/

namespace AccountPortal

open Base64Url

variable {v : Value} {body response : Fields Value}

/-- In one order its own id goes first, in the other one last. -/
theorem firstIdentifier?_own_first (v : Value) :
    firstIdentifier? v ["id", "rawId", "credentialId"] =
      (identifier? (v.get "id")).or (firstIdentifier? v ["rawId", "credentialId"]) :=
  firstIdentifier?_cons v "id" _

theorem payloadId?_own_last (p : Fields Value) :
    payloadId? p = (firstIdentifier? (.record p) ["rawId", "credentialId"]).or
      (identifier? ((Value.record p).get "id")) := by
  have nothing : firstIdentifier? (.record p) [] = none := rfl
  simp only [payloadId?, firstIdentifier?_cons, nothing, Option.or_assoc, Option.or_none]

theorem credentialIdOfBody?_of_response (h : body.get? "response" = some v) :
    credentialIdOfBody? (.record body) =
      (identifier? ((Value.record body).get "credentialId")).or
        (firstIdentifier? v ["id", "rawId", "credentialId"]) := by
  have there : (Value.record body).get "response" = v := by
    rw [Value.get, h, Option.getD_some]
  rw [credentialIdOfBody?, there]

theorem credentialIdOfBody?_put_response (body : Fields Value) (v : Value) :
    credentialIdOfBody? (.record (body.put "response" v)) =
      (identifier? ((Value.record body).get "credentialId")).or
        (firstIdentifier? v ["id", "rawId", "credentialId"]) := by
  have explicit : (Value.record (body.put "response" v)).get "credentialId" =
      (Value.record body).get "credentialId" := by
    simp only [Value.get, Fields.get?_put_of_ne body v (show "credentialId" ≠ "response" by decide)]
  rw [credentialIdOfBody?_of_response (Fields.get?_put_self _ _ _), explicit]

theorem or_swap_iff {α : Type} (a b : Option α) :
    b.or a = a.or b ↔ a = none ∨ b = none ∨ b = a := by
  cases a <;> cases b <;> simp

/-- The id that a request is found by before its response is normalised, and, where the id that the
payload is then given does not end in a blank, after it. The two are one id when the request names it
at the top, when the response has no `id` or has its id under this name alone, and when the two are
the same. -/
theorem same_id_from_normalized_response_iff
    (given : body.get? "response" = some (.record response)) :
    let explicit := identifier? ((Value.record body).get "credentialId")
    let own := identifier? ((Value.record response).get "id")
    let other := firstIdentifier? (.record response) ["rawId", "credentialId"]
    let before := credentialIdOfBody? (.record body)
    let after := credentialIdOfBody?
      (.record (body.put "response" (normalizePayload (.record response))))
    before = explicit.or (own.or other) ∧
      ((explicit = none →
          ∀ id, firstIdentifier? (.record response) ["rawId", "credentialId", "id"] = some id →
            ∀ c, id.toList.getLast? = some c → isBlank c = false) →
        after = explicit.or (other.or own) ∧
          (after = before ↔ explicit.isSome ∨ own = none ∨ other = none ∨ other = own)) := by
  intro explicit own other before after
  have hbefore : before = explicit.or (own.or other) := by
    rw [← firstIdentifier?_own_first]
    exact credentialIdOfBody?_of_response given
  refine ⟨hbefore, fun solid => ?_⟩
  have hafter : after = explicit.or (other.or own) := by
    have put := credentialIdOfBody?_put_response body (normalizePayload (.record response))
    rw [← payloadId?_own_last]
    cases named : explicit with
    | some id =>
      rw [show identifier? _ = some id from named, Option.some_or] at put
      exact put
    | none =>
      have found : firstIdentifier? (.record (normalizedEntries response))
          ["id", "rawId", "credentialId"] = payloadId? response :=
        firstIdentifier?_normalizedEntries (.inl rfl) (by decide) (solid named)
      rw [show identifier? _ = none from named, normalizePayload_record, found] at put
      exact put
  refine ⟨hafter, ?_⟩
  rw [hbefore, hafter]
  cases explicit with
  | some id => simp
  | none => simp [or_swap_iff]

/-- A response whose ids are spelled in two ways. -/
theorem same_id_of_two_spellings :
    let response : Fields Value := [("id", .text " a+b== "), ("rawId", .text "a-b"), ("x", .null)]
    let body : Fields Value := [("credentialId", .text "===="), ("response", .record response)]
    body.get? "response" = some (.record response) ∧
      credentialIdOfBody? (.record body) = some "a-b" ∧
      credentialIdOfBody? (.record (body.put "response" (normalizePayload (.record response)))) =
        credentialIdOfBody? (.record body) := by
  intro response body
  have given : body.get? "response" = some (.record response) := rfl
  have picked : firstIdentifier? (.record response) ["rawId", "credentialId", "id"] = some "a-b" :=
    by rfl
  obtain ⟨-, after⟩ := same_id_from_normalized_response_iff given
  obtain ⟨-, same⟩ := after (by
    rintro - id hid c hc
    obtain rfl : "a-b" = id := Option.some.inj (picked.symm.trans hid)
    obtain rfl : 'b' = c := Option.some.inj hc
    decide)
  exact ⟨given, by rfl, same.mpr (.inr (.inr (.inr (by rfl))))⟩

/-- A response with two ids is found by its own, and by the other one when it is normalised. -/
theorem another_id_from_normalized_response :
    let response : Fields Value := [("id", .text "a"), ("rawId", .text "b")]
    let body : Fields Value := [("response", .record response)]
    body.get? "response" = some (.record response) ∧
      credentialIdOfBody? (.record body) = some "a" ∧
      credentialIdOfBody? (.record (body.put "response" (normalizePayload (.record response)))) =
        some "b" := by
  intro response body
  exact ⟨rfl, by rfl, by rfl⟩

end AccountPortal

import AccountPortal.Proofs.Text.Comparison
import AccountPortal.Proofs.Text.Pieces

/-!
# Passwords are verified against their encodings

An encoded text is taken apart at its dollar signs. A salt may not hold any and a key in hexadecimal
holds none, so the parts are what was put together:

    verifyText p e = true ↔ ∃ salt, salt ≠ "" ∧ '$' ∉ salt.toList ∧ e = encode salt (keyHex p salt)
                                                                           (verifyText_iff_encode)

Against the hash of a password that password passes, and any other just when scrypt makes one key of
the two (`verifyText_hash_iff`).
-/

namespace AccountPortal

/-! ## Keys -/

namespace Hmac

theorem length_digest (key message : Bytes) : (digest key message).length = 32 :=
  Sha256.length_digest _

theorem length_stretch (password salt : Bytes) (n : Nat) :
    (stretch password salt n).length = n := by
  unfold stretch
  rw [List.length_take, List.length_flatMap]
  have blocks : ((List.range ((n + 31) / 32)).map fun i =>
      (digest password (salt ++ Bytes.ofBigWord (i + 1).toUInt32)).length).sum
        = (n + 31) / 32 * 32 := by
    simp only [length_digest, List.map_const', List.sum_replicate_nat, List.length_range]
  omega

end Hmac

/-- A key has sixty-four bytes, whatever the password and the salt. -/
theorem Scrypt.length_derive (password salt : Bytes) : (derive password salt).length = 64 :=
  Hmac.length_stretch _ _ 64

namespace Password

theorem keyHex_ne_empty (password salt : String) : keyHex password salt ≠ "" := by
  apply Bytes.hex_ne_empty
  apply List.ne_nil_of_length_pos
  rw [Scrypt.length_derive]
  decide

theorem dollar_not_mem_hex (bs : Bytes) : '$' ∉ bs.hex.toList := by
  have digits : ∀ n < 16, '$' ≠ Bytes.hexDigit n := by decide
  rw [Bytes.hex, String.toList_ofList]
  intro mem
  obtain ⟨n, small, same⟩ := Bytes.mem_hexChars mem
  exact digits n small same

/-! ## Encodings -/

variable {salt : String}

theorem toList_encode (salt key : String) :
    (encode salt key).toList = algorithm.toList ++ '$' :: (salt.toList ++ '$' :: key.toList) := by
  simp [encode]

/-- What is put together with dollar signs between is taken apart into the same parts. -/
theorem segments_eq_iff {encoded name key : String} :
    (segments '$' encoded.toList).map String.ofList = [name, salt, key] ↔
      encoded.toList = name.toList ++ '$' :: (salt.toList ++ '$' :: key.toList) ∧
        '$' ∉ name.toList ∧ '$' ∉ salt.toList ∧ '$' ∉ key.toList := by
  rw [← segments_eq_three_iff]
  constructor
  · intro h
    have back := congrArg (List.map String.toList) h
    simpa [Function.comp_def] using back
  · intro h
    rw [h]
    simp

theorem segments_encode (free : '$' ∉ salt.toList) (key : Bytes) :
    (segments '$' (encode salt key.hex).toList).map String.ofList = [algorithm, salt, key.hex] :=
  segments_eq_iff.mpr ⟨toList_encode salt _, by decide, free, dollar_not_mem_hex key⟩

theorem verifyText_iff_encode (password encoded : String) :
    verifyText password encoded = true ↔
      ∃ salt, salt ≠ "" ∧ '$' ∉ salt.toList ∧ encoded = encode salt (keyHex password salt) := by
  unfold verifyText
  constructor
  · intro h
    split at h
    · next name salt key parts =>
      obtain ⟨whole, -, free, -⟩ := segments_eq_iff.mp parts
      simp only [Bool.and_eq_true, beq_iff_eq, bne_iff_ne, sameText_eq_true_iff] at h
      obtain ⟨⟨⟨rfl, filled⟩, -⟩, same⟩ := h
      refine ⟨salt, filled, free, String.toList_injective ?_⟩
      rw [whole, toList_encode, same]
    · cases h
  · rintro ⟨salt, filled, free, rfl⟩
    rw [keyHex, segments_encode free]
    simp only [Bool.and_eq_true, beq_iff_eq, bne_iff_ne, sameText_eq_true_iff]
    exact ⟨⟨⟨trivial, filled⟩, keyHex_ne_empty password salt⟩, rfl⟩

/-! ## Hashes -/

/-- The salt of a hash is read back from it, so only the key may come of another password. -/
theorem verifyText_hash_iff {entropy : Bytes} (h : entropy ≠ []) (password other : String) :
    verifyText other (hash entropy password) = true ↔
      Scrypt.derive (utf8 other) (utf8 entropy.hex) =
        Scrypt.derive (utf8 password) (utf8 entropy.hex) := by
  have free := dollar_not_mem_hex entropy
  rw [verifyText_iff_encode, hash]
  constructor
  · rintro ⟨salt, -, freeSalt, same⟩
    have parts := segments_encode free (Scrypt.derive (utf8 password) (utf8 entropy.hex))
    rw [← keyHex, same, keyHex, segments_encode freeSalt] at parts
    simp only [List.cons.injEq, true_and, and_true] at parts
    obtain ⟨rfl, key⟩ := parts
    exact Bytes.hex_injective key
  · intro same
    refine ⟨entropy.hex, Bytes.hex_ne_empty h, free, ?_⟩
    rw [keyHex, keyHex, same]

/-- Scrypt makes a key of sixty-four bytes, and a value passes against another just when the two are
texts and the second is `scrypt`, a salt that is not empty and holds no dollar sign, and the key of
the first with that salt in lower-case hexadecimal, with dollar signs between. So every password
passes against its hash, and against the hash of another one just when scrypt makes the same key of
both with that salt. -/
theorem passes_iff_encoded :
    (∀ password salt : Bytes, (Scrypt.derive password salt).length = 64) ∧
    (∀ p e : Value, verify p e = true ↔
      ∃ password salt : String, p = .text password ∧ salt ≠ "" ∧ '$' ∉ salt.toList ∧
        e = .text ("scrypt$" ++ salt ++ "$" ++
          (Scrypt.derive (utf8 password) (utf8 salt)).hex)) ∧
    ∀ (entropy : Bytes) (password : String), entropy.length = 16 →
      verify (.text password) (.text (hash entropy password)) = true ∧
      ∀ other : String, verify (.text other) (.text (hash entropy password)) = true ↔
        Scrypt.derive (utf8 other) (utf8 entropy.hex) =
          Scrypt.derive (utf8 password) (utf8 entropy.hex) := by
  refine ⟨Scrypt.length_derive, ?_, ?_⟩
  · intro p e
    constructor
    · intro h
      cases p with
      | text password =>
        cases e with
        | text encoded =>
          obtain ⟨salt, filled, free, rfl⟩ := (verifyText_iff_encode password encoded).mp h
          exact ⟨password, salt, rfl, filled, free, rfl⟩
        | _ => cases h
      | _ => cases h
    · rintro ⟨password, salt, rfl, filled, free, rfl⟩
      exact (verifyText_iff_encode password _).mpr ⟨salt, filled, free, rfl⟩
  · intro entropy password length
    have filled : entropy ≠ [] := by
      rintro rfl
      cases length
    exact ⟨(verifyText_hash_iff filled password password).mpr rfl,
      verifyText_hash_iff filled password⟩

/-- Sixteen random bytes, two passwords. -/
theorem passes_with_sixteen_bytes :
    let entropy : Bytes := List.replicate 16 0x5C
    entropy.length = 16 ∧
      verify (.text "p$ss") (.text (hash entropy "p$ss")) = true ∧
      (verify (.text "") (.text (hash entropy "p$ss")) = true ↔
        Scrypt.derive (utf8 "") (utf8 entropy.hex) =
          Scrypt.derive (utf8 "p$ss") (utf8 entropy.hex)) := by
  intro entropy
  obtain ⟨own, others⟩ := passes_iff_encoded.2.2 entropy "p$ss" rfl
  exact ⟨rfl, own, others ""⟩

end Password

end AccountPortal

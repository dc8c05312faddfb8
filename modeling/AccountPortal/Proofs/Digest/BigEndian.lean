import AccountPortal.Digest.Bytes
import Mathlib.Data.Nat.Count
import Mathlib.Data.Nat.Digits.Defs
import Mathlib.SetTheory.Cardinal.Finite

/-!
# Bytes as numbers

Bytes of one length are the numbers below a power of 256, each written in one way
(`bigNat_lt`, `bigNat_inj`, `exists_bigNat_eq`), so they are counted by the numbers they write:

    Nat.card {bs : Bytes // bs.length = k ∧ p bs.bigNat} = Nat.count p (256 ^ k)        (card_bigNat)
-/

namespace AccountPortal.Bytes

theorem bigNat_concat (bs : Bytes) (b : UInt8) :
    bigNat (bs ++ [b]) = 256 * bigNat bs + b.toNat :=
  List.foldl_append

/-- The last byte is the lowest digit. -/
theorem bigNat_eq_ofDigits (bs : Bytes) :
    bigNat bs = Nat.ofDigits 256 (bs.reverse.map UInt8.toNat) := by
  induction bs using List.reverseRecOn with
  | nil => rfl
  | append_singleton bs b ih =>
    rw [bigNat_concat, ih, List.reverse_append, List.reverse_singleton, List.singleton_append,
      List.map_cons, Nat.ofDigits_cons, add_comm]

theorem lt_of_mem_map_toNat {bs : Bytes} {d : Nat} (h : d ∈ bs.reverse.map UInt8.toNat) :
    d < 256 := by
  obtain ⟨b, -, rfl⟩ := List.mem_map.mp h
  exact b.toNat_lt

theorem bigNat_lt (bs : Bytes) : bigNat bs < 256 ^ bs.length := by
  have below := Nat.ofDigits_lt_base_pow_length (b := 256) (by decide)
    fun d (h : d ∈ bs.reverse.map UInt8.toNat) => lt_of_mem_map_toNat h
  rwa [← bigNat_eq_ofDigits, List.length_map, List.length_reverse] at below

theorem bigNat_inj {a b : Bytes} (length : a.length = b.length) (h : bigNat a = bigNat b) :
    a = b := by
  rw [bigNat_eq_ofDigits, bigNat_eq_ofDigits] at h
  have digits : a.reverse.map UInt8.toNat = b.reverse.map UInt8.toNat :=
    Nat.ofDigits_inj_of_len_eq (by decide) (by simpa using length) (fun _ => lt_of_mem_map_toNat)
      (fun _ => lt_of_mem_map_toNat) h
  have back : a.reverse = b.reverse :=
    (List.map_injective_iff.mpr fun _ _ => UInt8.toNat_inj.mp) digits
  exact List.reverse_injective back

theorem exists_bigNat_eq {k n : Nat} (h : n < 256 ^ k) :
    ∃ bs : Bytes, bs.length = k ∧ bigNat bs = n := by
  induction k generalizing n with
  | zero => exact ⟨[], rfl, (Nat.lt_one_iff.mp h).symm⟩
  | succ k ih =>
    -- the last byte is the remainder, and the bytes before it write the quotient
    obtain ⟨bs, length, value⟩ := ih (n := n / 256) (by rw [pow_succ] at h; omega)
    have byte : (UInt8.ofNat (n % 256)).toNat = n % 256 :=
      UInt8.toNat_ofNat_of_lt' (Nat.mod_lt n (by decide))
    refine ⟨bs ++ [UInt8.ofNat (n % 256)], by rw [List.length_append, length]; rfl, ?_⟩
    rw [bigNat_concat, value, byte, Nat.div_add_mod]

/-- There are as many byte strings of one length as numbers they write. -/
theorem card_bigNat (k : Nat) (p : Nat → Prop) [DecidablePred p] :
    Nat.card {bs : Bytes // bs.length = k ∧ p bs.bigNat} = Nat.count p (256 ^ k) := by
  let number (bs : {bs : Bytes // bs.length = k ∧ p bs.bigNat}) : {n // n < 256 ^ k ∧ p n} :=
    ⟨bigNat bs.1, (bigNat_lt bs.1).trans_eq (congrArg (256 ^ ·) bs.2.1), bs.2.2⟩
  have bijective : number.Bijective := by
    constructor
    · intro a b same
      exact Subtype.ext (bigNat_inj (a.2.1.trans b.2.1.symm) (congrArg Subtype.val same))
    · rintro ⟨n, small, hn⟩
      obtain ⟨bs, length, value⟩ := exists_bigNat_eq small
      exact ⟨⟨bs, length, value ▸ hn⟩, Subtype.ext value⟩
  rw [Nat.card_eq_of_bijective number bijective, Nat.count_eq_card_filter_range]
  exact Nat.subtype_card _ fun n => by rw [Finset.mem_filter, Finset.mem_range]

end AccountPortal.Bytes

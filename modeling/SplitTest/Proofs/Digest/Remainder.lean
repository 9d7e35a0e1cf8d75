import Mathlib.Data.Nat.Digits.Defs
import Mathlib.Data.UInt
import SplitTest.Digest

namespace SplitTest.Digest

def value (digest : List UInt8) : Nat := Nat.ofDigits 256 (digest.reverse.map (·.toNat))

@[simp] theorem value_nil : value [] = 0 := rfl

@[simp] theorem value_append_singleton (digest : List UInt8) (byte : UInt8) :
    value (digest ++ [byte]) = value digest * 256 + byte.toNat := by
  rw [value, List.reverse_append, List.reverse_singleton, List.singleton_append, List.map_cons,
    Nat.ofDigits_cons, ← value, Nat.add_comm, Nat.mul_comm]

variable {modulus r : UInt64}

theorem remainder_append_singleton (digest : List UInt8) (byte : UInt8) :
    remainder (digest ++ [byte]) modulus = residueStep modulus (remainder digest modulus) byte :=
  List.foldl_append

section Positive

variable (positive : 0 < modulus)
include positive

theorem remainder_lt (digest : List UInt8) : remainder digest modulus < modulus := by
  induction digest using List.reverseRecOn with
  | nil => exact positive
  | append_singleton digest byte _ =>
    rw [remainder_append_singleton]
    exact UInt64.mod_lt _ positive

theorem residue_eq_ok (digest : List UInt8) (small : modulus ≤ maxModulus) :
    residue digest modulus = .ok (remainder digest modulus) := by
  have nonzero : modulus ≠ 0 := (UInt64.ne_of_lt positive).symm
  rw [residue, if_neg nonzero, if_neg (UInt64.not_lt.mpr small)]

end Positive

theorem residue_eq_error_iff {digest : List UInt8} :
    (∃ cause, residue digest modulus = .error cause) ↔ modulus = 0 ∨ maxModulus < modulus := by
  rw [residue]
  split
  case isTrue zero => exact iff_of_true ⟨_, rfl⟩ (.inl zero)
  case isFalse nonzero =>
    split
    case isTrue large => exact iff_of_true ⟨_, rfl⟩ (.inr large)
    case isFalse small =>
      apply iff_of_false
      · rintro ⟨_, ⟨⟩⟩
      · exact not_or.mpr ⟨nonzero, small⟩

section Small

variable (small : modulus ≤ maxModulus)
include small

theorem sum_lt (below : r < modulus) (byte : UInt8) :
    r.toNat * 256 + byte.toNat < 2 ^ 64 := by
  have most : modulus.toNat ≤ maxModulus.toNat := UInt64.le_iff_toNat_le.mp small
  have bound : maxModulus.toNat = 2 ^ 56 - 1 := rfl
  have less := UInt64.lt_iff_toNat_lt.mp below
  have digit := byte.toNat_lt
  omega

theorem toNat_residueStep (below : r < modulus) (byte : UInt8) :
    (residueStep modulus r byte).toNat = (r.toNat * 256 + byte.toNat) % modulus.toNat := by
  have fits := sum_lt small below byte
  have product : (r * 256).toNat = r.toNat * 256 := by
    rw [UInt64.toNat_mul]
    exact Nat.mod_eq_of_lt (Nat.lt_of_le_of_lt (Nat.le_add_right _ _) fits)
  rw [residueStep, UInt64.toNat_mod, UInt64.toNat_add, product, UInt8.toNat_toUInt64,
    Nat.mod_eq_of_lt fits]

theorem toNat_remainder (positive : 0 < modulus) (digest : List UInt8) :
    (remainder digest modulus).toNat = value digest % modulus.toNat := by
  induction digest using List.reverseRecOn with
  | nil => exact (Nat.zero_mod _).symm
  | append_singleton digest byte ih =>
    rw [remainder_append_singleton, toNat_residueStep small (remainder_lt positive digest), ih,
      value_append_singleton, Nat.add_mod, Nat.mod_mul_mod, ← Nat.add_mod]

end Small

/-- A modulus is refused if it is zero or has more than 56 bits. By any other one a digest leaves
the remainder of its value, and each sum on the way fits 64 bits. -/
theorem residue_eq_mod (digest : List UInt8) (modulus : UInt64) :
    ((∃ cause, residue digest modulus = .error cause) ↔
      modulus = 0 ∨ 2 ^ 56 - 1 < modulus.toNat) ∧
    ∀ r, residue digest modulus = .ok r → r.toNat = value digest % modulus.toNat ∧
      ∀ before byte after, digest = before ++ byte :: after →
        (remainder before modulus).toNat * 256 + byte.toNat < 2 ^ 64 := by
  refine ⟨residue_eq_error_iff.trans (or_congr_right UInt64.lt_iff_toNat_lt), fun r done => ?_⟩
  have sound : ¬ (modulus = 0 ∨ maxModulus < modulus) := by
    intro unsound
    obtain ⟨_, failed⟩ : ∃ cause, residue digest modulus = .error cause :=
      residue_eq_error_iff.mpr unsound
    cases done.symm.trans failed
  obtain ⟨nonzero, small⟩ := not_or.mp sound
  have positive : 0 < modulus := UInt64.pos_iff_ne_zero.mpr nonzero
  have small : modulus ≤ maxModulus := UInt64.not_lt.mp small
  rw [residue_eq_ok positive digest small] at done
  cases done
  refine ⟨toNat_remainder small positive digest, ?_⟩
  rintro before byte after -
  exact sum_lt small (remainder_lt positive before) byte

theorem residue_eq_mod_largest :
    let digest := List.replicate 32 0xff
    residue digest maxModulus = .ok 0xffffffff ∧ value digest = 2 ^ 256 - 1 ∧
      (2 ^ 256 - 1) % (2 ^ 56 - 1) = 0xffffffff ∧
      (remainder (digest.take 31) maxModulus).toNat * 256 + 0xff < 2 ^ 64 := by
  intro digest
  have done : residue digest maxModulus = .ok 0xffffffff := by decide +kernel
  obtain ⟨-, reduces⟩ := residue_eq_mod digest maxModulus
  obtain ⟨left, fits⟩ := reduces _ done
  have spelled : value digest = 2 ^ 256 - 1 := by decide +kernel
  refine ⟨done, spelled, ?_, fits (digest.take 31) 0xff [] rfl⟩
  rw [← spelled]
  exact left.symm

end SplitTest.Digest
